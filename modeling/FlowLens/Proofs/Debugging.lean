/-
  What debugging changes: each diagnostic carries the whole report that it was found
  in, and nothing else differs.

  * `Members.get?_merge`: of two objects, the one that is set over the other decides;
  * `Diagnostic.Filled`, a diagnostic that lacks nothing, which is what every entry
    gives (`Entry.filled_diagnostic`), so that the report never shows through;
  * `diagnose_carrying` and `diagnose_of_no_report`: an output with and without
    debugging.
-/
import FlowLens.Proofs.Fields
import FlowLens.Proofs.StopLedger
import FlowLens.Proofs.Telling
import Mathlib

namespace FlowLens

theorem Members.get?_eq_none {name : Text} {members : Members}
    (h : name ∉ members.map (·.1)) : members.get? name = none := by
  cases hget : members.get? name with
  | none => rfl
  | some v => exact absurd (List.mem_map_of_mem (mem_of_get? hget)) h

/-- The members of two objects, one set over the other. -/
theorem Members.get?_merge (name : Text) (base : Members) {later : Members}
    (hlater : (later.map (·.1)).Nodup) :
    (base.merge later).get? name = (later.get? name).or (base.get? name) := by
  induction later generalizing base with
  | nil => rfl
  | cons m rest ih =>
    obtain ⟨n, v⟩ := m
    rw [List.map_cons, List.nodup_cons] at hlater
    obtain ⟨hn, hrest⟩ := hlater
    have hstep : base.merge ((n, v) :: rest) = (base.put n v).merge rest := rfl
    rw [hstep, ih (base.put n v) hrest, get?_put, get?]
    by_cases h : n = name
    · subst h
      simp [get?_eq_none hn]
    · simp [h, Ne.symm h]

/-! ## Diagnostics -/

namespace Diagnostic

variable {d : Diagnostic} {document : Members}

/-- What the members of a diagnostic are called. -/
def ownNames : List Text :=
  ["type", "level", "message", "path", "start", "end", "loc"]

/-- Nothing about the diagnostic is unknown. -/
structure Filled (d : Diagnostic) : Prop where
  rule : d.rule.isSome = true
  path : d.path.isSome = true
  startLine : d.startLine.isSome = true
  endLine : d.endLine.isSome = true

/-- The diagnostic with a report, or without one. -/
def carrying (raw : Option Members) (d : Diagnostic) : Diagnostic :=
  { d with raw := raw }

theorem Filled.names_ownMembers (h : d.Filled) : d.ownMembers.map (·.1) = ownNames := by
  obtain ⟨_, _, _, _, _, _, _, _⟩ := d
  obtain ⟨hrule, hpath, hstart, hend⟩ := h
  obtain ⟨rule, rfl⟩ := Option.isSome_iff_exists.1 hrule
  obtain ⟨path, rfl⟩ := Option.isSome_iff_exists.1 hpath
  obtain ⟨first, rfl⟩ := Option.isSome_iff_exists.1 hstart
  obtain ⟨last, rfl⟩ := Option.isSome_iff_exists.1 hend
  rfl

/-- A payload that has the members of another, and those of a document besides.  The
    names are kept apart: the document has no say in the members of a diagnostic. -/
def Extends (document : Members) (plain full : Value) : Prop :=
  ∃ own all : Members, plain = .obj own ∧ full = .obj all ∧
    (∀ name ∈ ownNames, ∃ v, own.get? name = some v ∧ all.get? name = some v) ∧
    ∀ name ∉ ownNames, own.get? name = none ∧ all.get? name = document.get? name

/-- **The report never shows through** a diagnostic that lacks nothing. -/
theorem Filled.extends_carrying (h : d.Filled) (hraw : d.raw = none) (document : Members) :
    Extends document d.payload (d.carrying (some document)).payload := by
  have hnames := h.names_ownMembers
  have hnodup : (d.ownMembers.map (·.1)).Nodup := by rw [hnames]; decide
  have hplain : d.payload = .obj (Members.merge [] d.ownMembers) := by rw [payload, hraw]; rfl
  refine ⟨_, _, hplain, rfl, ?_, ?_⟩
  · intro name hname
    rw [← hnames, List.mem_map] at hname
    obtain ⟨m, hm, rfl⟩ := hname
    obtain ⟨v, hv⟩ := Option.isSome_iff_exists.1 (Members.get?_isSome_of_mem hm)
    refine ⟨v, ?_, ?_⟩
    · rw [Members.get?_merge _ _ hnodup, hv]; rfl
    · exact (Members.get?_merge _ _ hnodup).trans (by rw [hv]; rfl)
  · intro name hname
    have hnone : d.ownMembers.get? name = none := Members.get?_eq_none (by rwa [hnames])
    refine ⟨?_, ?_⟩
    · rw [Members.get?_merge _ _ hnodup, hnone]; rfl
    · exact (Members.get?_merge _ _ hnodup).trans (by rw [hnone]; rfl)

end Diagnostic

/-! ## Outputs -/

section
variable {ε α β γ : Type} {f : α → Except ε β}

theorem mapM_map_ok (g : β → γ) (l : List α) :
    l.mapM (fun a => (f a).map g) = (l.mapM f).map (List.map g) := by
  induction l with
  | nil => rfl
  | cons a rest ih =>
    rw [List.mapM_cons, List.mapM_cons, ih]
    cases f a with
    | error => rfl
    | ok b => cases rest.mapM f <;> rfl

theorem bind_eq_ok_iff {x : Except ε α} {b : β} :
    (x >>= f) = .ok b ↔ ∃ a, x = .ok a ∧ f a = .ok b := by
  cases x with
  | error fault =>
    constructor
    · intro h; cases h
    · rintro ⟨_, h, -⟩; cases h
  | ok a =>
    constructor
    · intro h; exact ⟨a, rfl, h⟩
    · rintro ⟨_, h, hf⟩; cases h; exact hf

theorem forall₂_of_mapM {l : List α} {bs : List β} (hl : l.mapM f = .ok bs) :
    List.Forall₂ (fun a b => f a = .ok b) l bs := by
  induction l generalizing bs with
  | nil => cases hl; exact .nil
  | cons a rest ih =>
    rw [List.mapM_cons] at hl
    obtain ⟨b, hb, hl⟩ := bind_eq_ok_iff.1 hl
    obtain ⟨bs', hrest, hl⟩ := bind_eq_ok_iff.1 hl
    cases hl
    exact .cons hb (ih hrest)

theorem exists_of_mem_mapM {l : List α} {bs : List β} {b : β} (hl : l.mapM f = .ok bs)
    (hb : b ∈ bs) : ∃ a ∈ l, f a = .ok b := by
  obtain ⟨a, ha, hf⟩ := exists_mem_of_forall₂ (forall₂_of_mapM hl) hb
  exact ⟨a, ha, hf⟩

end

section
variable {cwd : Path} {root file version stdout : Text} {offset : Offset} {raw : Option Members}
  {report : Report} {document : Members} {ds : List Diagnostic}

/-- The report that a diagnostic carries has no part in what it says. -/
theorem Entry.diagnostic_carrying (raw : Option Members) (e : Entry) :
    e.diagnostic root version offset raw =
      (e.diagnostic root version offset none).map (.carrying raw) := by
  unfold diagnostic
  cases e.describe root version offset with
  | error => rfl
  | ok message => cases offset.shiftPlace e.primary.place <;> rfl

/-- What the diagnostic for an entry is made of. -/
theorem Entry.exists_of_diagnostic {e : Entry} {d : Diagnostic}
    (h : e.diagnostic root version offset raw = .ok d) :
    ∃ message span, e.describe root version offset = .ok message ∧
      offset.shiftPlace e.primary.place = .ok span ∧
      d = ⟨some (.ofMessage message), e.severity, message, some e.primary.path,
        some span.start.line, some span.stop.line, span, raw⟩ := by
  unfold diagnostic at h
  obtain ⟨message, hmessage, h⟩ := bind_eq_ok_iff.1 h
  obtain ⟨span, hspan, h⟩ := bind_eq_ok_iff.1 h
  cases h
  exact ⟨message, span, hmessage, hspan, rfl⟩

/-- **An entry gives a diagnostic that lacks nothing.** -/
theorem Entry.filled_diagnostic {e : Entry} {d : Diagnostic}
    (h : e.diagnostic root version offset raw = .ok d) : d.Filled ∧ d.raw = raw := by
  obtain ⟨message, span, -, -, rfl⟩ := Entry.exists_of_diagnostic h
  exact ⟨⟨rfl, rfl, rfl, rfl⟩, rfl⟩

theorem Report.diagnostics_carrying (raw : Option Members) :
    report.diagnostics cwd root file offset raw =
      (report.diagnostics cwd root file offset none).map (List.map (.carrying raw)) := by
  unfold diagnostics
  rw [← mapM_map_ok]
  exact congrArg (List.mapM · _) (funext (Entry.diagnostic_carrying raw))

theorem Report.filled_diagnostics (h : report.diagnostics cwd root file offset raw = .ok ds) :
    ∀ d ∈ ds, d.Filled ∧ d.raw = raw := by
  intro d hd
  obtain ⟨e, -, he⟩ := exists_of_mem_mapM h hd
  exact Entry.filled_diagnostic he

/-- **Debugging adds the report** to each diagnostic of one. -/
theorem diagnose_carrying (hdecode : decode stdout = .ok (.report report document)) :
    diagnose cwd true root file offset stdout =
      (diagnose cwd false root file offset stdout).map (List.map (.carrying (some document))) := by
  unfold diagnose
  rw [hdecode]
  simp only [if_true, Bool.false_eq_true, if_false]
  rw [Report.diagnostics_carrying]
  cases report.diagnostics cwd root file offset none <;> rfl

/-- **Debugging changes nothing** if there is no report. -/
theorem diagnose_of_no_report
    (hdecode : ∀ report document, decode stdout ≠ .ok (.report report document)) :
    diagnose cwd true root file offset stdout = diagnose cwd false root file offset stdout := by
  unfold diagnose
  cases hd : decode stdout with
  | error => rfl
  | ok d =>
    cases d with
    | report report document => exact absurd hd (hdecode report document)
    | ended | unusable => rfl

theorem filled_of_diagnose (hdecode : decode stdout = .ok (.report report document))
    (h : diagnose cwd false root file offset stdout = .ok ds) :
    ∀ d ∈ ds, d.Filled ∧ d.raw = none := by
  unfold diagnose at h
  rw [hdecode] at h
  simp only [Bool.false_eq_true, if_false] at h
  split at h
  · next ds' hds =>
    cases h
    exact Report.filled_diagnostics hds
  · cases h

end

/-! ## Running the checker -/

/-- An outcome, whatever was told. -/
def Outcome.kind {α : Type} : Outcome α → Outcome Unit
  | skipped => .skipped
  | unsupported reason => .unsupported reason
  | told _ => .told ()

section
variable {run : Runner} {cwd : Path} {c : Checker} {r : Request} {s : Session} {stdout : Text}

theorem Checker.exists_of_tell {α : Type} {read : Text → Except Failure α} {a : α}
    {p : Except CallFault Invocation × Session} (h : (tell read p).1 = .ok (.told a)) :
    ∃ stdout, p.1 = .ok (.completed stdout) ∧ read stdout = .ok a := by
  rcases p with ⟨_ | (_ | _ | stdout), s⟩
  · cases h
  · cases h
  · cases h
  · refine ⟨stdout, rfl, ?_⟩
    cases hread : read stdout with
    | error => simp [tell, hread, Except.map] at h
    | ok b => simp_all [tell, Except.map]

theorem Checker.kind_tell {α : Type} {read read' : Text → Except Failure α}
    (h : ∀ stdout, (read stdout).map (fun _ => ()) = (read' stdout).map fun _ => ())
    (p : Except CallFault Invocation × Session) :
    (tell read p).1.map Outcome.kind = (tell read' p).1.map Outcome.kind := by
  have hkind : ∀ x : Except Failure α,
      (x.map Outcome.told).map Outcome.kind = (x.map fun _ => ()).map Outcome.told := by
    rintro (_ | _) <;> rfl
  rcases p with ⟨_ | (_ | _ | stdout), s⟩
  · rfl
  · rfl
  · rfl
  · calc
      ((read stdout).map .told).map Outcome.kind = ((read stdout).map fun _ => ()).map .told :=
        hkind _
      _ = ((read' stdout).map fun _ => ()).map .told := by rw [h stdout]
      _ = ((read' stdout).map .told).map Outcome.kind := (hkind _).symm

/-- A check that is completed was run, and its output is what the run gave. -/
theorem Checker.exists_run_of_completed {mode : Text}
    (h : (c.invoke run mode r s).1 = .ok (.completed stdout)) :
    ∃ code x, run (c.callFor mode r) s.exchange = (.ok ⟨some stdout, code⟩, x) := by
  unfold invoke at h
  split_ifs at h
  · cases h
  rcases hrun : run (c.callFor mode r) s.exchange with ⟨_ | ⟨out, code⟩, x⟩
  · next fault =>
    rw [hrun] at h
    cases fault <;> cases h
  · rw [hrun] at h
    rcases out with _ | (_ | ⟨a, rest⟩)
    · cases h
    · cases h
    · cases h
      exact ⟨code, x, rfl⟩

/-- Whether there are diagnostics does not depend on debugging. -/
theorem kind_diagnose (cwd : Path) (root file : Text) (offset : Offset) (stdout : Text) :
    (diagnose cwd true root file offset stdout).map (fun _ => ()) =
      (diagnose cwd false root file offset stdout).map fun _ => () := by
  by_cases hreport : ∃ report document, decode stdout = .ok (.report report document)
  · obtain ⟨report, document, hdecode⟩ := hreport
    rw [diagnose_carrying hdecode]
    cases diagnose cwd false root file offset stdout <;> rfl
  · simp only [not_exists] at hreport
    rw [diagnose_of_no_report hreport]

/-- **Debugging only adds.**  The same calls are made and the same roots are
    scheduled, and what comes of it is of the same kind.  If there are diagnostics,
    there are as many; those of a report extend the plain ones by the report, and
    others are the same. -/
theorem collect_debug_extends (run : Runner) (cwd : Path) (binary : Text) (r : Request)
    (offset : Except OffsetFault Offset) (s : Session) :
    (Checker.collect run cwd ⟨binary, true⟩ r offset s).2 =
      (Checker.collect run cwd ⟨binary, false⟩ r offset s).2 ∧
    (Checker.collect run cwd ⟨binary, true⟩ r offset s).1.map Outcome.kind =
      (Checker.collect run cwd ⟨binary, false⟩ r offset s).1.map Outcome.kind ∧
    ∀ full plain, (Checker.collect run cwd ⟨binary, true⟩ r offset s).1 = .ok (.told full) →
      (Checker.collect run cwd ⟨binary, false⟩ r offset s).1 = .ok (.told plain) →
      full.length = plain.length ∧
      ∃ stdout code x,
        run (Checker.callFor ⟨binary, false⟩ "check-contents" r) s.exchange =
          (.ok ⟨some stdout, code⟩, x) ∧
        (∀ report document, decode stdout = .ok (.report report document) →
          List.Forall₂ (Diagnostic.Extends document) (plain.map Diagnostic.payload)
            (full.map Diagnostic.payload)) ∧
        ((∀ report document, decode stdout ≠ .ok (.report report document)) →
          full.map Diagnostic.payload = plain.map Diagnostic.payload) := by
  cases offset with
  | error fault =>
    refine ⟨rfl, rfl, ?_⟩
    intro full plain hfull
    cases hfull
  | ok offset =>
    refine ⟨by simp only [Checker.collect, Checker.collectAt, Checker.snd_tell]; rfl,
      Checker.kind_tell (kind_diagnose cwd r.root r.file offset) _, ?_⟩
    intro full plain hfull hplain
    obtain ⟨stdout, hinvoke, hdiagnose⟩ := Checker.exists_of_tell hplain
    -- debugging has no part in the run, so both read the same output
    have hdebug : (diagnose cwd true r.root r.file offset stdout).map Outcome.told =
        .ok (.told full) := (Checker.tell_of_completed hinvoke).symm.trans hfull
    obtain ⟨code, x, hrun⟩ := Checker.exists_run_of_completed hinvoke
    by_cases hreport : ∃ report document, decode stdout = .ok (.report report document)
    · obtain ⟨report, document, hdecode⟩ := hreport
      rw [diagnose_carrying hdecode, hdiagnose] at hdebug
      cases hdebug
      refine ⟨List.length_map _, stdout, code, x, hrun, ?_, fun hnone => absurd hdecode (hnone _ _)⟩
      rintro report' document' hdecode'
      rw [hdecode] at hdecode'
      cases hdecode'
      rw [List.map_map, List.forall₂_map_left_iff, List.forall₂_map_right_iff, List.forall₂_same]
      intro d hd
      obtain ⟨hfilled, hraw⟩ := filled_of_diagnose hdecode hdiagnose d hd
      exact hfilled.extends_carrying hraw document
    · simp only [not_exists] at hreport
      rw [diagnose_of_no_report hreport, hdiagnose] at hdebug
      cases hdebug
      exact ⟨rfl, stdout, code, x, hrun, fun report document hdecode =>
        absurd hdecode (hreport report document), fun _ => rfl⟩

end

/-! ### A report with namesakes -/

/-- An output in which some members are called as those of a diagnostic are. -/
def namesakeOutput : Text :=
  Text.ofString "\x7b\"message\":\"no\",\"path\":null,\"x\":3," ++ sampleOutput.tail

/-- The members of the output. -/
def namesakeDocument : Members :=
  [("message", .str "no"), ("path", .null), ("x", .int 3), ("errors", .arr [.int 7, sampleItem])]

theorem read_namesakeOutput : Json.read namesakeOutput = .ok (.obj namesakeDocument) := by cbv

theorem decode_namesakeOutput :
    decode namesakeOutput = .ok (.report sampleReport namesakeDocument) := by
  have herrors : namesakeDocument.get? "errors" = some (.arr [.int 7, sampleItem]) := rfl
  rw [decode, read_namesakeOutput]
  dsimp only
  rw [Decoded.ofValue, herrors]
  dsimp only
  rw [readableEntries_sampleItem]
  rfl

/-- What is told about the one entry that can be read. -/
def namesakeTelling (raw : Option Members) : Diagnostic :=
  sampleEntry.telling sampleRequest.root sampleReport.version 10 2 raw

theorem message_namesakeTelling (raw : Option Members) :
    (namesakeTelling raw).message = Text.ofString "x (see line 15)" := by
  have hwording : sampleEntry.wording sampleRequest.root sampleReport.version 10 =
      Text.ofString "x (see line 15)" := by cbv
  exact hwording

theorem told_namesakeOutput (debug : Bool) :
    (Checker.collect .scripted ⟨.root, []⟩ ⟨"flow", debug⟩ sampleRequest (.ok (.ofInts 10 2))
      (sampleSession namesakeOutput)).1 =
      .ok (.told [namesakeTelling (if debug then some namesakeDocument else none)]) := by
  have hstdout : namesakeOutput ≠ [] := by decide
  have htellable : ∀ e ∈ sampleReport.entries,
      e.Concerns ⟨.root, []⟩ sampleRequest.root sampleRequest.file → e.Tellable 10 := by
    intro e he _ token _ m hm _ _
    obtain rfl := List.mem_singleton.1 he
    obtain rfl := List.mem_singleton.1 (List.mem_of_find?_eq_some hm)
    exact fewDigits_of_lt (by decide)
  have hconcerns : sampleEntry.concerns ⟨.root, []⟩ sampleRequest.root
      (fileBelow ⟨.root, []⟩ sampleRequest.root sampleRequest.file) = true := by cbv
  rw [Checker.collect_of_output (by decide) hstdout rfl,
    diagnose_of_report decode_namesakeOutput htellable, sampleReport,
    List.filter_cons_of_pos hconcerns]
  rfl

/-- With debugging the one diagnostic still has its own message and path, and besides
    them the members that no diagnostic has. -/
theorem collect_namesakeOutput :
    (Checker.collect .scripted ⟨.root, []⟩ ⟨"flow", true⟩ sampleRequest (.ok (.ofInts 10 2))
      (sampleSession namesakeOutput)).1 =
      .ok (.told [namesakeTelling (some namesakeDocument)]) ∧
    (namesakeTelling (some namesakeDocument)).message = Text.ofString "x (see line 15)" ∧
    Diagnostic.Extends namesakeDocument (namesakeTelling none).payload
      (namesakeTelling (some namesakeDocument)).payload := by
  refine ⟨told_namesakeOutput true, message_namesakeTelling _, ?_⟩
  obtain ⟨-, -, htold⟩ := collect_debug_extends .scripted ⟨.root, []⟩ "flow" sampleRequest
    (.ok (.ofInts 10 2)) (sampleSession namesakeOutput)
  obtain ⟨-, stdout, code, x, hrun, hreport, -⟩ :=
    htold _ _ (told_namesakeOutput true) (told_namesakeOutput false)
  cases hrun
  exact (List.forall₂_cons.1 (hreport _ _ decode_namesakeOutput)).1

end FlowLens
