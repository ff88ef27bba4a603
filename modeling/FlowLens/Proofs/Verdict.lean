/-
  The verdict on a file.  What is not known to be a warning counts as an error.

  * `SaysWarning` and `Severity.ofText_eq_warning_iff`: the words for a warning;
  * `Members.Grave`: an item of a list of errors that is no warning, whatever its
    level is;
  * `Report.exists_error_iff`: a report fails a file exactly if one of the items that
    concern the file is grave;
  * `failed_iff_grave`: the verdict on an output.
-/
import FlowLens.Proofs.Debugging
import FlowLens.Proofs.LowerCase
import Mathlib

namespace FlowLens

/-! ## Words for a warning -/

theorem Text.mem_trimBy {p : CodePoint → Bool} {c : CodePoint} {t : Text} (hmem : c ∈ t)
    (hc : p c = false) : c ∈ t.trimBy p := by
  have hdrop : ∀ {l : Text}, c ∈ l → c ∈ l.dropWhile p := by
    intro l hl
    rw [← List.takeWhile_append_dropWhile (p := p) (l := l), List.mem_append] at hl
    rcases hl with hl | hl
    · rw [List.mem_takeWhile_imp hl] at hc
      cases hc
    · exact hl
  exact List.mem_reverse.2 (hdrop (List.mem_reverse.2 (hdrop hmem)))

/-- A level that says it is a warning, in letters of either case and with blanks
    around it. -/
def SaysWarning (level : Text) : Prop :=
  level.strip.map asciiLower = "warn" ∨ level.strip.map asciiLower = "warning"

namespace Severity

variable {level : Text} {c : CodePoint}

theorem ofWord?_eq_warning_iff {word : Text} :
    ofWord? word = some warning ↔ word = "warning" ∨ word = "warn" := by
  unfold ofWord?
  split_ifs with herror hwarning
  · rcases herror with rfl | rfl <;> decide
  · simp [hwarning]
  · simp [hwarning]

theorem ofText_eq_warning_iff : ofText error level = warning ↔ SaysWarning level := by
  have hwarn : level.strip.lower = "warn" ↔ level.strip.map asciiLower = "warn" :=
    Text.lower_eq_iff (by decide)
  have hwarning : level.strip.lower = "warning" ↔ level.strip.map asciiLower = "warning" :=
    Text.lower_eq_iff (by decide)
  rw [SaysWarning, ← hwarn, ← hwarning, or_comm, ← ofWord?_eq_warning_iff, ofText]
  cases ofWord? level.strip.lower with
  | none => decide
  | some s => simp

theorem ofText_eq_error_iff : ofText error level = error ↔ ¬ SaysWarning level := by
  rw [← ofText_eq_warning_iff]
  cases ofText error level <;> decide

/-- **No letter beyond ASCII** is part of a word for a warning. -/
theorem ofText_beyond (hmem : c ∈ level) (hc : 128 ≤ c.val) (hblank : c.isBlank = false) :
    ofText error level = error := by
  rw [ofText_eq_error_iff]
  have hkept := Text.mem_map_asciiLower_of_beyond hc (Text.mem_trimBy hmem hblank)
  have hascii : ∀ d ∈ Text.ofString "warn" ++ Text.ofString "warning", d.val < 128 := by decide
  rintro (h | h)
  · have := hascii c (List.mem_append_left _ (h ▸ hkept))
    omega
  · have := hascii c (List.mem_append_right _ (h ▸ hkept))
    omega

end Severity

/-! ## Grave items -/

/-- The level of an item does not make it a warning: it has none, it is `null`, or it
    says something else. -/
inductive Members.Grave (members : Members) : Prop
  | missing : members.get? "level" = none → Grave members
  | null : members.get? "level" = some .null → Grave members
  | other {level : Text} : members.get? "level" = some (.str level) → ¬ SaysWarning level →
      Grave members

/-- The level of an item that can be read. -/
theorem Entry.level_of_check {members : Members} {e : Entry}
    (h : Entry.check (.obj members) = .good e) :
    (members.get? "level" = none ∧ e.level = none) ∨
    (members.get? "level" = some .null ∧ e.level = none) ∨
      ∃ level, members.get? "level" = some (.str level) ∧ e.level = some level := by
  simp only [Entry.check, checkRecord, Checked.seq_eq_good_iff, Checked.map_eq_good_iff] at h
  obtain ⟨_, _, ⟨_, _, ⟨_, level, ⟨_, _, rfl⟩, hlevel, rfl⟩, _, rfl⟩, _, rfl⟩ := h
  rcases Members.optional_plain_eq_good_iff.1 hlevel with ⟨hnone, rfl⟩ | ⟨v, hv, hcheck⟩
  · exact Or.inl ⟨hnone, rfl⟩
  rcases checkNullable_eq_good_iff.1 hcheck with ⟨rfl, rfl⟩ | ⟨-, text, htext, rfl⟩
  · exact Or.inr (Or.inl ⟨hv, rfl⟩)
  · rw [checkText_eq_good_iff] at htext
    exact Or.inr (Or.inr ⟨text, htext ▸ hv, rfl⟩)

theorem Entry.severity_eq_error_iff {members : Members} {e : Entry}
    (h : Entry.check (.obj members) = .good e) : e.severity = .error ↔ members.Grave := by
  rcases Entry.level_of_check h with ⟨hget, hlevel⟩ | ⟨hget, hlevel⟩ | ⟨level, hget, hlevel⟩
  · simp only [Entry.severity, hlevel]
    exact ⟨fun _ => .missing hget, fun _ => rfl⟩
  · simp only [Entry.severity, hlevel]
    exact ⟨fun _ => .null hget, fun _ => rfl⟩
  · simp only [Entry.severity, hlevel, Option.map_some, Option.getD_some,
      Severity.ofText_eq_error_iff]
    refine ⟨.other hget, ?_⟩
    rintro (hnone | hnull | ⟨hother, hsays⟩)
    · rw [hget] at hnone; cases hnone
    · rw [hget] at hnull; cases hnull
    · rw [hget] at hother
      cases hother
      exact hsays

theorem Report.mem_readableEntries_iff {items : List Value} {e : Entry} :
    e ∈ readableEntries items ↔
      ∃ members, .obj members ∈ items ∧ Entry.check (.obj members) = .good e := by
  rw [readableEntries, List.mem_filterMap]
  constructor
  · rintro ⟨item, hitem, hcheck⟩
    have hcheck := Checked.toOption_eq_some_iff.1 hcheck
    obtain ⟨members, rfl, -⟩ := checkRecord_eq_good hcheck
    exact ⟨members, hitem, hcheck⟩
  · rintro ⟨members, hitem, hcheck⟩
    exact ⟨_, hitem, Checked.toOption_eq_some_iff.2 hcheck⟩

/-! ## Diagnostics -/

section
variable {cwd : Path} {root file stdout : Text} {offset : Offset} {raw : Option Members}
  {report : Report} {document : Members} {ds : List Diagnostic}

theorem Entry.severity_diagnostic {version : Text} {e : Entry} {d : Diagnostic}
    (h : e.diagnostic root version offset raw = .ok d) : d.severity = e.severity := by
  obtain ⟨message, span, -, -, rfl⟩ := Entry.exists_of_diagnostic h
  rfl

/-- The diagnostics of a report hold an error exactly if an entry is one that concerns
    the file. -/
theorem Report.exists_error_iff (h : report.diagnostics cwd root file offset raw = .ok ds) :
    (∃ d ∈ ds, d.severity = .error) ↔
      ∃ e ∈ report.entries, e.Concerns cwd root file ∧ e.severity = .error := by
  have hall := forall₂_of_mapM h
  constructor
  · rintro ⟨d, hd, herror⟩
    obtain ⟨e, he, hdiagnostic⟩ := exists_mem_of_forall₂ hall hd
    obtain ⟨he, hconcerns⟩ := List.mem_filter.1 he
    exact ⟨e, he, Entry.concerns_iff.1 hconcerns,
      (Entry.severity_diagnostic hdiagnostic).symm.trans herror⟩
  · rintro ⟨e, he, hconcerns, herror⟩
    have he := List.mem_filter.2 ⟨he, Entry.concerns_iff.2 hconcerns⟩
    obtain ⟨d, hd, hdiagnostic⟩ := exists_mem_of_forall₂ hall.flip he
    exact ⟨d, hd, (Entry.severity_diagnostic hdiagnostic).trans herror⟩

/-- An output that is no report gives a single error. -/
theorem Decoded.exists_error_fatal {d : Decoded} (h : ∀ r document, d ≠ .report r document) :
    ∃ t ∈ d.fatal, t.severity = .error := by
  cases d with
  | report r document => exact absurd rfl (h r document)
  | ended e => exact ⟨_, List.mem_singleton_self _, rfl⟩
  | unusable reason => exact ⟨_, List.mem_singleton_self _, rfl⟩

/-- An item of the output that can be read, concerns the file and is no warning. -/
def GraveIn (cwd : Path) (root file stdout : Text) : Prop :=
  ∃ (report : Report) (document : Members) (items : List Value) (members : Members) (e : Entry),
    decode stdout = .ok (.report report document) ∧
    document.get? "errors" = some (.arr items) ∧ .obj members ∈ items ∧
    Entry.check (.obj members) = .good e ∧ e.Concerns cwd root file ∧ members.Grave

theorem exists_error_of_report (hdecode : decode stdout = .ok (.report report document))
    (h : report.diagnostics cwd root file offset raw = .ok ds) :
    (∃ d ∈ ds, d.severity = .error) ↔ GraveIn cwd root file stdout := by
  obtain ⟨-, items, hitems, hentries⟩ := decode_eq_report hdecode
  rw [Report.exists_error_iff h, hentries]
  constructor
  · rintro ⟨e, he, hconcerns, herror⟩
    obtain ⟨members, hitem, hcheck⟩ := Report.mem_readableEntries_iff.1 he
    exact ⟨report, document, items, members, e, hdecode, hitems, hitem, hcheck, hconcerns,
      (Entry.severity_eq_error_iff hcheck).1 herror⟩
  · rintro ⟨report', document', items', members, e, hdecode', hitems', hitem, hcheck, hconcerns, hgrave⟩
    rw [hdecode] at hdecode'
    cases hdecode'
    rw [hitems] at hitems'
    cases hitems'
    exact ⟨e, Report.mem_readableEntries_iff.2 ⟨members, hitem, hcheck⟩, hconcerns,
      (Entry.severity_eq_error_iff hcheck).2 hgrave⟩

theorem exists_error_of_diagnose {debug : Bool}
    (h : diagnose cwd debug root file offset stdout = .ok ds) :
    (∃ d ∈ ds, d.severity = .error) ↔
      (∀ report document, decode stdout ≠ .ok (.report report document)) ∨
        GraveIn cwd root file stdout := by
  unfold diagnose at h
  cases hdecode : decode stdout with
  | error cause => rw [hdecode] at h; cases h
  | ok decoded =>
    rw [hdecode] at h
    by_cases hreport : ∃ report document, decoded = .report report document
    · obtain ⟨report, document, rfl⟩ := hreport
      dsimp only at h
      split at h
      · next ds' hds =>
        cases h
        rw [exists_error_of_report hdecode hds]
        refine ⟨Or.inr, ?_⟩
        rintro (hnone | hgrave)
        · exact absurd rfl (hnone report document)
        · exact hgrave
      · cases h
    · simp only [not_exists] at hreport
      obtain rfl : decoded.fatal = ds := by
        cases decoded with
        | report r document => exact absurd rfl (hreport r document)
        | ended | unusable => exact Except.ok.inj h
      refine ⟨fun _ => Or.inl fun r document heq => hreport r document (Except.ok.inj heq),
        fun _ => Decoded.exists_error_fatal hreport⟩

end

/-! ## Verdicts -/

theorem LintReport.failed_iff (report : LintReport) :
    report.failed = true ↔ ∃ d ∈ report.diagnostics, d.severity = .error := by
  simp [failed, count, List.countP_pos_iff]

/-- Each diagnostic is an error or a warning. -/
theorem LintReport.count_add_count (report : LintReport) :
    report.count .error + report.count .warning = report.diagnostics.length := by
  have hwarning : ∀ d : Diagnostic, decide (d.severity = .warning) = !decide (d.severity = .error) := by
    intro d
    cases d.severity <;> rfl
  rw [List.length_eq_countP_add_countP (fun d => decide (d.severity = .error)), count, count]
  simp only [hwarning]
  simp

theorem LintReport.told_of_status {path : Text} {outcome : Outcome (List Diagnostic)}
    (h : (ofOutcome path outcome).status = .ok) : ∃ ds, outcome = .told ds := by
  cases outcome with
  | skipped | unsupported => cases h
  | told ds => exact ⟨ds, rfl⟩

/-- **The verdict is on the safe side.**  A file that the checker answered about fails
    exactly if there is no report, or an item of the report that can be read and
    concerns the file has no level, `null` or one that does not say warning.  Each
    diagnostic counts as an error or as a warning, and no level with a letter beyond
    ASCII is taken for a warning. -/
theorem failed_iff_grave {run : Runner} {cwd : Path} {c : Checker} {r : Request}
    {offset : Except OffsetFault Offset} {s : Session} {stdout : Text} {code : Int} {x : Exchange}
    {outcome : Outcome (List Diagnostic)}
    (hrun : run (c.callFor "check-contents" r) s.exchange = (.ok ⟨some stdout, code⟩, x))
    (houtcome : (c.collect run cwd r offset s).1 = .ok outcome)
    (hstatus : (LintReport.ofOutcome r.file outcome).status = .ok) :
    ((LintReport.ofOutcome r.file outcome).failed = true ↔
      (∀ report document, decode stdout ≠ .ok (.report report document)) ∨
        GraveIn cwd r.root r.file stdout) ∧
    (LintReport.ofOutcome r.file outcome).count .error +
        (LintReport.ofOutcome r.file outcome).count .warning =
      (LintReport.ofOutcome r.file outcome).diagnostics.length ∧
    ∀ (level : Text) (unit : CodePoint), unit ∈ level → 128 ≤ unit.val → unit.isBlank = false →
      Severity.ofText .error level = .error := by
  obtain ⟨ds, rfl⟩ := LintReport.told_of_status hstatus
  refine ⟨?_, LintReport.count_add_count _, fun level unit => Severity.ofText_beyond⟩
  cases offset with
  | error fault => cases houtcome
  | ok offset =>
    obtain ⟨stdout', hinvoke, hdiagnose⟩ := Checker.exists_of_tell houtcome
    obtain ⟨code', x', hrun'⟩ := Checker.exists_run_of_completed hinvoke
    rw [hrun] at hrun'
    cases hrun'
    rw [LintReport.failed_iff]
    exact exists_error_of_diagnose hdiagnose

/-- The members of an item about the file `a`, whose level is written with a dotless
    i. -/
def dotlessItem : Members :=
  [("message", .arr [.obj [("descr", .str "x"), ("loc", .obj [("source", .str "a"),
    ("start", .obj [("line", .int 0), ("column", .int 1)]),
    ("end", .obj [("line", .int 2), ("column", .int 4)])])]]),
    ("level", .str " WARN\u0131NG")]

/-- The entry that the item describes. -/
def dotlessEntry : Entry where
  primary := ⟨[], "x", some "Blame", 0, 0,
    some ⟨some "a", ⟨0, 1, none⟩, ⟨2, 4, none⟩, some "SourceFile"⟩⟩
  others := []
  level := some " WARN\u0131NG"
  operation := none
  extras := none

/-- An output with that item only. -/
def dotlessOutput : Text :=
  ["\x7b\"errors\":[", "\x7b\"message\":[\x7b\"descr\":\"x\",", "\"loc\":\x7b\"source\":\"a\",",
    "\"start\":\x7b\"line\":0,\"column\":1\x7d,", "\"end\":\x7b\"line\":2,\"column\":4\x7d\x7d\x7d],",
    "\"level\":\" WARN\\u0131NG\"\x7d]\x7d"].flatMap Text.ofString

theorem read_dotlessOutput :
    Json.read dotlessOutput = .ok (.obj [("errors", .arr [.obj dotlessItem])]) := by
  cbv

theorem check_dotlessItem : Entry.check (.obj dotlessItem) = .good dotlessEntry := by
  cbv

theorem decode_dotlessOutput : decode dotlessOutput =
    .ok (.report ⟨[dotlessEntry], [], none⟩ [("errors", .arr [.obj dotlessItem])]) := by
  have hreadable : Report.readableEntries [.obj dotlessItem] = [dotlessEntry] := by
    simp only [Report.readableEntries, List.filterMap_cons, check_dotlessItem]
    rfl
  rw [decode, read_dotlessOutput]
  dsimp only
  rw [Decoded.ofValue, Members.get?, if_pos rfl]
  dsimp only
  rw [hreadable]
  rfl

/-- What is not quite a word for a warning fails the file. -/
theorem failed_dotlessOutput : ∃ ds,
    (Checker.collect .scripted ⟨.root, []⟩ ⟨"flow", false⟩ sampleRequest (.ok (.ofInts 10 2))
      (sampleSession dotlessOutput)).1 = .ok (.told ds) ∧
    (LintReport.ofOutcome sampleRequest.file (.told ds)).failed = true := by
  have htellable : ∀ e ∈ [dotlessEntry],
      e.Concerns ⟨.root, []⟩ sampleRequest.root sampleRequest.file → e.Tellable 10 := by
    intro e he _
    obtain rfl := List.mem_singleton.1 he
    exact Entry.tellable_of_references_eq_nil rfl
  have hstdout : dotlessOutput ≠ [] := by
    intro h
    have hdecode := decode_dotlessOutput
    rw [h] at hdecode
    cases hdecode
  have hrun : Runner.scripted (Checker.callFor ⟨"flow", false⟩ "check-contents" sampleRequest)
      (sampleSession dotlessOutput).exchange = (.ok ⟨some dotlessOutput, 2⟩, _) := rfl
  have hcollect : (Checker.collect .scripted ⟨.root, []⟩ ⟨"flow", false⟩ sampleRequest
      (.ok (.ofInts 10 2)) (sampleSession dotlessOutput)).1 = _ :=
    Checker.collect_of_output (by decide) hstdout hrun
  rw [diagnose_of_report decode_dotlessOutput htellable] at hcollect
  have hconcerns : dotlessEntry.concerns ⟨.root, []⟩ sampleRequest.root
      (fileBelow ⟨.root, []⟩ sampleRequest.root sampleRequest.file) = true := by cbv
  have hlevel : Members.get? "level" dotlessItem = some (.str " WARN\u0131NG") := by cbv
  have hsays : Severity.ofText .error " WARN\u0131NG" = .error :=
    Severity.ofText_beyond (c := .char '\u0131') (by decide) (by decide) (by decide)
  have hgrave : GraveIn ⟨.root, []⟩ sampleRequest.root sampleRequest.file dotlessOutput :=
    ⟨_, _, [.obj dotlessItem], dotlessItem, dotlessEntry, decode_dotlessOutput,
      by rw [Members.get?, if_pos rfl], List.mem_singleton_self _, check_dotlessItem,
      Entry.concerns_iff.1 hconcerns, .other hlevel (Severity.ofText_eq_error_iff.1 hsays)⟩
  exact ⟨_, hcollect, (failed_iff_grave hrun hcollect rfl).1.2 (Or.inr hgrave)⟩

end FlowLens
