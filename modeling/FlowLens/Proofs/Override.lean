/-
  What the environment changes in the settings of a project.  A checker that it
  names goes before that of the table, and either switch turns debugging on; the
  rest stays.  But a table that calls the checker `flow_bin` and an environment
  that names one do not go together.

  * `Settings.Gives`, what the fields of a table give, kept apart from what the
    table holds besides;
  * `Settings.overridden`, the settings with those of the environment;
  * `Settings.Clashes`, when the two do not go together;
  * `Settings.gives_overlay` and `Settings.unknown_overlay`, what the environment
    does to the fields and to the rest.
-/
import FlowLens.Proofs.Fields
import FlowLens.Settings.Basic

namespace FlowLens

namespace Settings

/-! ## Tables -/

/-- The fields of settings. -/
def fields : List Field :=
  [flowBinField, debugField, stopField, minCoverageField]

/-- The fields of a table give these settings. -/
structure Gives (members : Members) (s : Settings) : Prop where
  flowBin : members.optional flowBinField none (checkNullable checkPath) = .good s.flowBin
  debug : members.optional debugField false checkBool = .good s.debug
  stopOnExit : members.optional stopField false checkBool = .good s.stopOnExit
  minCoverage : members.optional minCoverageField none
    (checkNullable (checkDoubleWithin 0 100)) = .good s.minCoverage

/-- The problems of members that belong to no field. -/
def forbidden (members : Members) : List Problem :=
  members.map fun m => ⟨[.name m.1], .extraForbidden⟩

variable {members : Members} {s : Settings} {env : Environment}

theorem gives_of_check (h : check (.obj members) = .good s) :
    Gives members s ∧ members.unknown fields = [] := by
  simp only [check, checkRecord, Checked.seq_eq_good_iff, Checked.map_eq_good_iff] at h
  obtain ⟨_, _, ⟨_, _, ⟨_, _, ⟨_, _, ⟨_, hflow, rfl⟩, hdebug, rfl⟩, hstop, rfl⟩, hmin, rfl⟩,
    honly, rfl⟩ := h
  exact ⟨⟨hflow, hdebug, hstop, hmin⟩, Members.onlyFields_eq_good_iff.1 honly⟩

theorem check_of_gives (h : Gives members s) :
    check (.obj members) =
      if members.unknown fields = [] then .good s
      else .bad (forbidden (members.unknown fields)) := by
  have hfields : [flowBinField, debugField, stopField, minCoverageField] = fields := rfl
  simp only [check, checkRecord, h.flowBin, h.debug, h.stopOnExit, h.minCoverage]
  rw [hfields, Members.onlyFields_eq]
  cases members.unknown fields with
  | nil => rfl
  | cons m rest => rfl

/-- A checker is named in place of that of the table. -/
theorem Gives.put_flowBin (h : Gives members s) (t : Text) :
    Gives (members.put flowBinField.key (.str t)) { s with flowBin := some (.ofText t) } where
  flowBin := Members.optional_of_lookup?_eq_some Members.lookup?_put_self rfl
  debug := (Members.optional_of_lookup?_eq (Members.lookup?_put_of_apart (by decide))).trans h.debug
  stopOnExit :=
    (Members.optional_of_lookup?_eq (Members.lookup?_put_of_apart (by decide))).trans h.stopOnExit
  minCoverage :=
    (Members.optional_of_lookup?_eq (Members.lookup?_put_of_apart (by decide))).trans h.minCoverage

/-- Debugging is turned on. -/
theorem Gives.put_debug (h : Gives members s) :
    Gives (members.put debugField.key (.bool true)) { s with debug := true } where
  flowBin :=
    (Members.optional_of_lookup?_eq (Members.lookup?_put_of_apart (by decide))).trans h.flowBin
  debug := Members.optional_of_lookup?_eq_some Members.lookup?_put_self rfl
  stopOnExit :=
    (Members.optional_of_lookup?_eq (Members.lookup?_put_of_apart (by decide))).trans h.stopOnExit
  minCoverage :=
    (Members.optional_of_lookup?_eq (Members.lookup?_put_of_apart (by decide))).trans h.minCoverage

theorem apart_of_mem_fields :
    ∀ f ∈ fields, ∀ g ∈ fields, g ≠ f → f.Apart g := by
  decide

/-! ## The environment -/

/-- The checker that the environment names, if it names one. -/
def namedChecker (env : Environment) : Option Text :=
  (Environment.get? "FLOW_BIN" env).filter (· ≠ [])

/-- The words that turn something on. -/
def onWords : List Text :=
  ["1", "true", "yes", "on"].map Text.ofString

/-- One of the two switches turns debugging on. -/
def SwitchedOn (env : Environment) : Prop :=
  ∃ t, (Environment.get? "DEBUG_FLOWTYPE_ERRORS" env = some t ∨
    Environment.get? "DEBUG_FLOWTYPE_ERRRORS" env = some t) ∧ t.strip.lower ∈ onWords

theorem isOn_iff {value : Option Text} :
    isOn value = true ↔ ∃ t, value = some t ∧ t.strip.lower ∈ onWords := by
  cases value with
  | none => simp [isOn]
  | some t =>
    rw [isOn, List.any_eq_true]
    simp only [decide_eq_true_eq, onWords, List.mem_map, Option.some.injEq, exists_eq_left']

theorem switchedOn_iff : (isOn (Environment.get? "DEBUG_FLOWTYPE_ERRORS" env) ||
    isOn (Environment.get? "DEBUG_FLOWTYPE_ERRRORS" env)) = true ↔ SwitchedOn env := by
  rw [Bool.or_eq_true, isOn_iff, isOn_iff, ← exists_or]
  exact exists_congr fun t => or_and_right.symm

instance (env : Environment) : Decidable (SwitchedOn env) :=
  decidable_of_iff _ switchedOn_iff

/-- Settings with those of the environment in their place. -/
def overridden (env : Environment) (s : Settings) : Settings :=
  { s with
    flowBin := match namedChecker env with
      | some t => some (.ofText t)
      | none => s.flowBin
    debug := if SwitchedOn env then true else s.debug }

/-- The environment names a checker, and the table calls its own by the name of
    the field. -/
def Clashes (env : Environment) (members : Members) : Prop :=
  (namedChecker env).isSome = true ∧ ∃ m ∈ members, m.1 = flowBinField.name

instance (env : Environment) (members : Members) : Decidable (Clashes env members) :=
  inferInstanceAs (Decidable (_ ∧ _))

/-- A table with the checker that the environment names. -/
def withNamed (env : Environment) (members : Members) : Members :=
  match namedChecker env with
  | some t => members.put flowBinField.key (.str t)
  | none => members

theorem overlay_eq (env : Environment) (members : Members) :
    overlay env members =
      if SwitchedOn env then (withNamed env members).put debugField.key (.bool true)
      else withNamed env members := by
  unfold overlay withNamed namedChecker
  simp only [switchedOn_iff]
  rcases Environment.get? "FLOW_BIN" env with _ | _ | ⟨c, rest⟩ <;> rfl

/-- **The fields of a table under an environment.** -/
theorem gives_overlay (h : Gives members s) : Gives (overlay env members) (overridden env s) := by
  rw [overlay_eq, withNamed, overridden]
  cases namedChecker env with
  | none =>
    split_ifs
    · exact h.put_debug
    · exact h
  | some t =>
    split_ifs
    · exact (h.put_flowBin t).put_debug
    · exact h.put_flowBin t

theorem unknown_put_debug :
    (members.put debugField.key (.bool true)).unknown fields = members.unknown fields := by
  have hmem : debugField ∈ fields := by decide
  rw [Members.unknown_put hmem (apart_of_mem_fields _ hmem)]
  refine List.filter_congr fun m _ => ?_
  simp [debugField, Field.plain]

theorem unknown_put_flowBin (hknown : members.unknown fields = []) (t : Text) :
    (members.put flowBinField.key (.str t)).unknown fields =
      members.filter fun m => m.1 = flowBinField.name := by
  have hmem : flowBinField ∈ fields := by decide
  have hne : flowBinField.name ≠ flowBinField.key := by decide
  rw [Members.unknown_put hmem (apart_of_mem_fields _ hmem)]
  refine List.filter_congr fun m hm => ?_
  have hm' := List.filter_eq_nil_iff.1 hknown m hm
  simp_all

theorem unknown_withNamed (hknown : members.unknown fields = []) :
    (withNamed env members).unknown fields =
      if Clashes env members then members.filter fun m => m.1 = flowBinField.name else [] := by
  unfold withNamed
  cases hnamed : namedChecker env with
  | none =>
    have hnot : ¬ Clashes env members := by simp [Clashes, hnamed]
    rw [if_neg hnot]
    exact hknown
  | some t =>
    rw [unknown_put_flowBin hknown]
    split_ifs with hclash
    · rfl
    · refine List.filter_eq_nil_iff.2 fun m hm hname => hclash ⟨by rw [hnamed]; rfl, m, hm, ?_⟩
      simpa using hname

/-- **The rest of a table under an environment**: nothing, unless they clash. -/
theorem unknown_overlay (hknown : members.unknown fields = []) :
    (overlay env members).unknown fields =
      if Clashes env members then members.filter fun m => m.1 = flowBinField.name else [] := by
  rw [overlay_eq, ← unknown_withNamed hknown]
  by_cases hon : SwitchedOn env
  · rw [if_pos hon, unknown_put_debug]
  · rw [if_neg hon]

/-! ## Loading -/

/-- The table of a project, or none without a project. -/
def table (tree : FileTree) (cwd : Path) : Option Path → Except SettingsFault Members
  | some root => fromFile tree cwd root
  | none => .ok []

variable {tree : FileTree} {cwd : Path} {root : Option Path}

theorem load_of_table (htable : table tree cwd root = .ok members) :
    load tree cwd env root =
      match check (.obj (overlay env members)) with
      | .good s => .ok s
      | .bad problems => .error (.invalid problems) := by
  cases root with
  | none =>
    cases htable
    rfl
  | some root =>
    change fromFile tree cwd root = .ok members at htable
    change Except.bind (fromFile tree cwd root) _ = _
    rw [htable]
    rfl

theorem exists_table_of_load (h : load tree cwd env root = .ok s) :
    ∃ members, table tree cwd root = .ok members ∧
      check (.obj (overlay env members)) = .good s := by
  cases htable : table tree cwd root with
  | error fault =>
    cases root with
    | none => cases htable
    | some root =>
      change fromFile tree cwd root = .error fault at htable
      simp only [load, htable, bind, Except.bind, reduceCtorEq] at h
  | ok members =>
    refine ⟨members, rfl, ?_⟩
    rw [load_of_table htable] at h
    split at h
    · next s' hcheck =>
      cases h
      exact hcheck
    · cases h

/-- **The environment goes before the table.**  Settings that a project has
    without an environment it has under any, with the checker that the
    environment names and with debugging on if a switch says so; unless the
    environment names a checker and the table calls its own `flow_bin`, which is
    then refused as a member without a field. -/
theorem load_override (h : load tree cwd [] root = .ok s) (env : Environment) :
    ∃ members, table tree cwd root = .ok members ∧
      load tree cwd env root =
        if Clashes env members then
          .error (.invalid (forbidden (members.filter fun m => m.1 = flowBinField.name)))
        else .ok (overridden env s) := by
  obtain ⟨members, htable, hcheck⟩ := exists_table_of_load h
  obtain ⟨hgives, hknown⟩ := gives_of_check (show check (.obj members) = .good s from hcheck)
  refine ⟨members, htable, ?_⟩
  rw [load_of_table htable, check_of_gives (gives_overlay hgives), unknown_overlay hknown]
  by_cases hclash : Clashes env members
  · obtain ⟨m, hm, hname⟩ := hclash.2
    have hne : (members.filter fun m => m.1 = flowBinField.name) ≠ [] :=
      List.ne_nil_of_mem (List.mem_filter.2 ⟨hm, by simpa using hname⟩)
    simp only [if_pos hclash, if_neg hne]
  · simp only [if_neg hclash, if_true]

/-- A project whose table calls the checker by the name of the field. -/
def sampleTree : FileTree :=
  ⟨[([("p" : Text)], .dir),
    ([("p" : Text), "pyproject.toml"],
      .file (Utf8.encode "[tool.flowdiag]\nflow_bin = \"/opt/flow\"\n") false)]⟩

/-- Its root. -/
def sampleRoot : Path :=
  .ofText "/p"

/-- Its table. -/
def sampleMembers : Members :=
  [("flow_bin", .str "/opt/flow")]

/-- Its settings. -/
def sampleSettings : Settings :=
  ⟨some (.ofText "/opt/flow"), false, false, none⟩

theorem table_sampleTree :
    table sampleTree (.ofText "/") (some sampleRoot) = .ok sampleMembers := by
  cbv

/-- A switch turns debugging on there, and a checker in the environment is
    refused. -/
theorem load_sampleTree :
    load sampleTree (.ofText "/") [] (some sampleRoot) = .ok sampleSettings ∧
      load sampleTree (.ofText "/") [("DEBUG_FLOWTYPE_ERRRORS", " Yes ")] (some sampleRoot) =
        .ok { sampleSettings with debug := true } ∧
      load sampleTree (.ofText "/") [("FLOW_BIN", "/env/flow")] (some sampleRoot) =
        .error (.invalid [⟨[.name "flow_bin"], .extraForbidden⟩]) := by
  have hplain : load sampleTree (.ofText "/") [] (some sampleRoot) = .ok sampleSettings := by
    rw [load_of_table table_sampleTree]
    cbv
  refine ⟨hplain, ?_, ?_⟩
  · obtain ⟨members, htable, hload⟩ := load_override hplain [("DEBUG_FLOWTYPE_ERRRORS", " Yes ")]
    obtain rfl : sampleMembers = members := Except.ok.inj (table_sampleTree.symm.trans htable)
    have hclash : ¬ Clashes [("DEBUG_FLOWTYPE_ERRRORS", " Yes ")] sampleMembers :=
      fun h => absurd h.1 (by decide)
    have hword : (Text.strip " Yes ").lower = "yes" := by cbv
    have hon : SwitchedOn [("DEBUG_FLOWTYPE_ERRRORS", " Yes ")] :=
      ⟨" Yes ", .inr (by decide), by rw [hword]; decide⟩
    rw [hload, if_neg hclash, overridden, if_pos hon]
    rfl
  · obtain ⟨members, htable, hload⟩ := load_override hplain [("FLOW_BIN", "/env/flow")]
    obtain rfl : sampleMembers = members := Except.ok.inj (table_sampleTree.symm.trans htable)
    have hclash : Clashes [("FLOW_BIN", "/env/flow")] sampleMembers := by decide
    rw [hload, if_pos hclash]
    rfl

end Settings

end FlowLens
