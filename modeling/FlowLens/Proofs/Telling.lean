/-
  What the host is told about a file, entry by entry.

  * `Entry.Concerns`: an entry is about a file and worth telling;
  * `tellings`: what is told about one item of a list of errors, whatever the
    others are;
  * `Report.diagnostics_of_tellable`: the diagnostics are the tellings of the items,
    one after the other;
  * `diagnose_cases`: when there are diagnostics at all.
-/
import FlowLens.Proofs.Wording

namespace FlowLens

theorem Text.has_iff {part t : Text} : Text.has part t = true ↔ part <:+: t := by
  induction t with
  | nil => simp [Text.has, List.infix_nil]
  | cons c rest ih =>
    rw [Text.has, Bool.or_eq_true, ih, List.isPrefixOf_iff_prefix, List.infix_cons_iff]

/-! ## Entries about a file -/

namespace Entry

/-- The place that decides to which file an entry belongs: that of the
    operation, or that of the primary message if the operation has none. -/
def DecidedBy (e : Entry) (p : Place) : Prop :=
  (∃ m, e.operation = some m ∧ m.place = some p) ∨
    (∀ m, e.operation = some m → m.place = none) ∧ e.primary.place = some p

/-- An entry is about the file and worth telling: the place that decides is in
    a source that names the file, and the description says something about it. -/
def Concerns (cwd : Path) (root file : Text) (e : Entry) : Prop :=
  (∃ p source, e.DecidedBy p ∧ p.source = some source ∧ source ≠ [] ∧
      fileBelow cwd root source = fileBelow cwd root file) ∧
    e.primary.descr ≠ [] ∧ ¬ sharedDefinitions <:+: e.primary.descr

variable {cwd : Path} {root file : Text} {e : Entry}

theorem decidedBy_iff {p : Place} : e.DecidedBy p ↔ e.place? = some p := by
  unfold DecidedBy place?
  cases e.operation with
  | none => simp
  | some m => cases hp : m.place <;> simp [hp]

theorem concerns_iff :
    e.concerns cwd root (fileBelow cwd root file) = true ↔ e.Concerns cwd root file := by
  simp only [concerns, Concerns, decidedBy_iff]
  cases e.place? with
  | none => simp
  | some p =>
    cases hs : p.source with
    | none => simp [hs]
    | some source =>
      simp only [Option.bind_some, hs, Bool.and_eq_true, Bool.not_eq_true', decide_eq_true_eq,
        List.isEmpty_eq_false_iff, Option.some.injEq, exists_and_left, exists_eq_left', ← Text.has_iff,
        Bool.not_eq_true]
      tauto

instance : Decidable (e.Concerns cwd root file) :=
  decidable_of_iff _ concerns_iff

end Entry

/-- What is told about one item of a list of errors: nothing if it cannot be
    read or does not concern the file. -/
def tellings (cwd : Path) (root file version : Text) (line column : Int) (item : Value) :
    List Diagnostic :=
  match Entry.check item with
  | .bad _ => []
  | .good e =>
    if e.Concerns cwd root file then [e.telling root version line column none] else []

theorem flatMap_tellings (cwd : Path) (root file version : Text) (line column : Int)
    (items : List Value) :
    items.flatMap (tellings cwd root file version line column) =
      ((Report.readableEntries items).filter
        (Entry.concerns cwd root (fileBelow cwd root file))).map
        (Entry.telling root version line column none) := by
  induction items with
  | nil => rfl
  | cons item rest ih =>
    rw [List.flatMap_cons, ih]
    unfold tellings Report.readableEntries
    cases hc : Entry.check item with
    | bad problems => simp [hc, Checked.toOption]
    | good e =>
      simp only [List.filterMap_cons, hc, Checked.toOption, List.filter_cons, Entry.concerns_iff]
      split_ifs with h
      · rfl
      · rfl

/-! ## Reports -/

namespace Report

variable {cwd : Path} {root file : Text} {line column : Int} {raw : Option Members} {r : Report}

theorem diagnostics_of_tellable (hlines : ∀ e ∈ r.entries, ∀ m ∈ e.references, FewDigits m.line)
    (h : ∀ e ∈ r.entries, e.Concerns cwd root file → e.Tellable line) :
    r.diagnostics cwd root file (.ofInts line column) raw =
      .ok ((r.entries.filter (Entry.concerns cwd root (fileBelow cwd root file))).map
        (Entry.telling root r.version line column raw)) := by
  refine mapM_eq_ok fun e he => ?_
  obtain ⟨he, hc⟩ := List.mem_filter.1 he
  exact Entry.diagnostic_of_tellable (hlines e he) (h e he (Entry.concerns_iff.1 hc))

theorem diagnostics_of_not_tellable
    (hlines : ∀ e ∈ r.entries, ∀ m ∈ e.references, FewDigits m.line)
    (h : ¬ ∀ e ∈ r.entries, e.Concerns cwd root file → e.Tellable line) :
    r.diagnostics cwd root file (.ofInts line column) raw = .error (.tooLong .writing) := by
  simp only [not_forall] at h
  obtain ⟨e, he, hc, hnot⟩ := h
  refine mapM_eq_error (fun e' he' => ?_) ⟨e, List.mem_filter.2 ⟨he, Entry.concerns_iff.2 hc⟩,
    Entry.diagnostic_of_not_tellable (hlines e he) hnot⟩
  have hlines' := hlines e' (List.mem_filter.1 he').1
  by_cases ht : e'.Tellable line
  · exact Or.inl ⟨_, Entry.diagnostic_of_tellable hlines' ht⟩
  · exact Or.inr (Entry.diagnostic_of_not_tellable hlines' ht)

theorem checkAround_eq_good {entries : List Entry} {members : Members}
    (h : checkAround (.good entries) members = .good r) : r.entries = entries := by
  simp only [checkAround, Checked.seq_eq_good_iff, Checked.map_eq_good_iff] at h
  obtain ⟨_, _, ⟨_, _, ⟨_, he, rfl⟩, _, rfl⟩, _, rfl⟩ := h
  cases he
  rfl

end Report

/-- An output that is a report was read as an object with a list of errors, and
    the entries are those of the list that can be read. -/
theorem decode_eq_report {stdout : Text} {r : Report} {document : Members}
    (h : decode stdout = .ok (.report r document)) :
    Json.read stdout = .ok (.obj document) ∧ ∃ items,
      document.get? "errors" = some (.arr items) ∧ r.entries = Report.readableEntries items := by
  unfold decode at h
  split at h
  · next v hv =>
    have h := Except.ok.inj h
    unfold Decoded.ofValue at h
    split at h
    · next members =>
      split at h
      · next items hitems =>
        split at h
        · next r' hr =>
          cases h
          exact ⟨hv, items, hitems, Report.checkAround_eq_good hr⟩
        · cases h
      · unfold Decoded.ofUnreported at h
        split at h
        · split_ifs at h
        · cases h
    · cases h
  · cases h
  · cases h

theorem fewDigits_of_decode {stdout : Text} {r : Report} {document : Members}
    (h : decode stdout = .ok (.report r document)) :
    ∀ e ∈ r.entries, ∀ m ∈ e.references, FewDigits m.line := by
  obtain ⟨hread, items, hitems, hentries⟩ := decode_eq_report h
  have hobj := Value.writable_obj_iff.1 (Json.writable_of_read hread)
  have harr := Value.writable_arr_iff.1 (hobj _ (Members.mem_of_get? hitems))
  intro e he
  rw [hentries, Report.readableEntries, List.mem_filterMap] at he
  obtain ⟨item, hitem, hcheck⟩ := he
  exact Entry.fewDigits_of_check (harr item hitem) (Checked.toOption_eq_some_iff.1 hcheck)

/-! ## Outputs -/

section
variable {cwd : Path} {debug : Bool} {root file stdout : Text} {line column : Int}

theorem diagnose_of_report {r : Report} {document : Members}
    (hdecode : decode stdout = .ok (.report r document))
    (h : ∀ e ∈ r.entries, e.Concerns cwd root file → e.Tellable line) :
    diagnose cwd debug root file (.ofInts line column) stdout =
      .ok ((r.entries.filter (Entry.concerns cwd root (fileBelow cwd root file))).map
        (Entry.telling root r.version line column (if debug then some document else none))) := by
  unfold diagnose
  rw [hdecode]
  dsimp only
  rw [Report.diagnostics_of_tellable (fewDigits_of_decode hdecode) h]

theorem diagnose_of_not_tellable {r : Report} {document : Members}
    (hdecode : decode stdout = .ok (.report r document))
    (h : ¬ ∀ e ∈ r.entries, e.Concerns cwd root file → e.Tellable line) :
    diagnose cwd debug root file (.ofInts line column) stdout =
      .error (.offset (.tooLong .writing)) := by
  unfold diagnose
  rw [hdecode]
  dsimp only
  rw [Report.diagnostics_of_not_tellable (fewDigits_of_decode hdecode) h]

theorem diagnose_of_tooLong {cause : TooManyDigits}
    (h : Json.read stdout = .error (.tooLong cause)) :
    diagnose cwd debug root file (.ofInts line column) stdout = .error (.tooLong cause) := by
  unfold diagnose decode
  rw [h]

theorem decode_eq_ok (h : ∀ cause, Json.read stdout ≠ .error (.tooLong cause)) :
    ∃ d, decode stdout = .ok d := by
  unfold decode
  cases hr : Json.read stdout with
  | ok v => exact ⟨_, rfl⟩
  | error e =>
    cases e with
    | malformed fault => exact ⟨_, rfl⟩
    | tooLong cause => exact absurd hr (h cause)

/-- All that can come of an output: a refusal to read an integer, a refusal to
    write one, or diagnostics. -/
theorem diagnose_cases (cwd : Path) (debug : Bool) (root file : Text) (line column : Int)
    (stdout : Text) :
    (∃ cause, Json.read stdout = .error (.tooLong cause) ∧
      diagnose cwd debug root file (.ofInts line column) stdout = .error (.tooLong cause)) ∨
    (∃ r document, decode stdout = .ok (.report r document) ∧
      (¬ ∀ e ∈ r.entries, e.Concerns cwd root file → e.Tellable line) ∧
      diagnose cwd debug root file (.ofInts line column) stdout =
        .error (.offset (.tooLong .writing))) ∨
    ((∀ cause, Json.read stdout ≠ .error (.tooLong cause)) ∧
      (∀ r document, decode stdout = .ok (.report r document) →
        ∀ e ∈ r.entries, e.Concerns cwd root file → e.Tellable line) ∧
      ∃ ds, diagnose cwd debug root file (.ofInts line column) stdout = .ok ds) := by
  by_cases hread : ∃ cause, Json.read stdout = .error (.tooLong cause)
  · obtain ⟨cause, hcause⟩ := hread
    exact Or.inl ⟨cause, hcause, diagnose_of_tooLong hcause⟩
  have hread' : ∀ cause, Json.read stdout ≠ .error (.tooLong cause) := not_exists.1 hread
  obtain ⟨d, hd⟩ := decode_eq_ok hread'
  cases d with
  | report r document =>
    by_cases ht : ∀ e ∈ r.entries, e.Concerns cwd root file → e.Tellable line
    · refine Or.inr (Or.inr ⟨hread', fun r' document' h => ?_, _, diagnose_of_report hd ht⟩)
      rw [hd] at h
      cases h
      exact ht
    · exact Or.inr (Or.inl ⟨r, document, hd, ht, diagnose_of_not_tellable hd ht⟩)
  | ended ending =>
    refine Or.inr (Or.inr ⟨hread', fun r document h => ?_, (Decoded.ended ending).fatal, ?_⟩)
    · rw [hd] at h; cases h
    · unfold diagnose; rw [hd]
  | unusable reason =>
    refine Or.inr (Or.inr ⟨hread', fun r document h => ?_, (Decoded.unusable reason).fatal, ?_⟩)
    · rw [hd] at h; cases h
    · unfold diagnose; rw [hd]

end

/-! ## Running the checker -/

section
variable {run : Runner} {cwd : Path} {c : Checker} {r : Request} {line column : Int} {s : Session}
  {stdout : Text} {code : Int} {x : Exchange}

theorem Checker.invoke_of_output {mode : Text} (hsource : r.source ≠ []) (hstdout : stdout ≠ [])
    (hrun : run (c.callFor mode r) s.exchange = (.ok ⟨some stdout, code⟩, x)) :
    (c.invoke run mode r s).1 = .ok (.completed stdout) := by
  unfold invoke
  rw [if_neg (by simpa using hsource), hrun]
  cases stdout with
  | nil => exact absurd rfl hstdout
  | cons d rest => rfl

theorem Checker.tell_of_completed {α : Type} {read : Text → Except Failure α}
    {p : Except CallFault Invocation × Session} (h : p.1 = .ok (.completed stdout)) :
    (tell read p).1 = (read stdout).map .told := by
  obtain ⟨invocation, s⟩ := p
  obtain rfl : invocation = _ := h
  rfl

theorem Checker.collect_of_output {offset : Offset} (hsource : r.source ≠ [])
    (hstdout : stdout ≠ [])
    (hrun : run (c.callFor "check-contents" r) s.exchange = (.ok ⟨some stdout, code⟩, x)) :
    (c.collect run cwd r (.ok offset) s).1 =
      (diagnose cwd c.debug r.root r.file offset stdout).map .told :=
  tell_of_completed (invoke_of_output hsource hstdout hrun)

/-- **Entry by entry.**  The diagnostics of a report are the tellings of the
    items of its list of errors, in order. -/
theorem collect_eq_flatMap_tellings {report : Report} {document : Members} {items : List Value}
    (hsource : r.source ≠ []) (hdebug : c.debug = false)
    (hrun : run (c.callFor "check-contents" r) s.exchange = (.ok ⟨some stdout, code⟩, x))
    (hdecode : decode stdout = .ok (.report report document))
    (hitems : document.get? "errors" = some (.arr items))
    (hlines : ∀ item ∈ items, ∀ e, Entry.check item = .good e →
      ∀ m ∈ e.references, FewDigits (line + m.line)) :
    (c.collect run cwd r (.ok (.ofInts line column)) s).1 =
      .ok (.told (items.flatMap (tellings cwd r.root r.file report.version line column))) := by
  have hstdout : stdout ≠ [] := by
    rintro rfl
    cases hdecode
  obtain ⟨-, items', hitems', hentries⟩ := decode_eq_report hdecode
  obtain rfl : items = items' := by
    rw [hitems] at hitems'
    cases hitems'
    rfl
  have htellable : ∀ e ∈ report.entries, e.Concerns cwd r.root r.file → e.Tellable line := by
    intro e he _ token _ m hm _ _
    rw [hentries, Report.readableEntries, List.mem_filterMap] at he
    obtain ⟨item, hitem, hcheck⟩ := he
    exact hlines item hitem e (Checked.toOption_eq_some_iff.1 hcheck) m
      (List.mem_of_find?_eq_some hm)
  rw [Checker.collect_of_output hsource hstdout hrun, diagnose_of_report hdecode htellable,
    flatMap_tellings, hdebug, hentries]
  rfl

end

/-- An item that can be read: its description refers to a message five lines
    down. -/
def sampleItem : Value :=
  .obj [
    ("message", .arr [.obj [("descr", .str "x [1]"), ("loc", .obj [("source", .str "a"),
      ("start", .obj [("line", .int 0), ("column", .int 1)]),
      ("end", .obj [("line", .int 2), ("column", .int 4)])])]]),
    ("extra", .arr [.obj [("message", .arr [.obj [("descr", .str "[1]"), ("line", .int 5)]])]])]

/-- The entry that the item describes. -/
def sampleEntry : Entry where
  primary := ⟨[], "x [1]", some "Blame", 0, 0,
    some ⟨some "a", ⟨0, 1, none⟩, ⟨2, 4, none⟩, some "SourceFile"⟩⟩
  others := []
  level := none
  operation := none
  extras := some [⟨[⟨[], "[1]", some "Blame", 5, 0, none⟩]⟩]

/-- An output with an item that cannot be read and one that can. -/
def sampleOutput : Text :=
  ["\x7b\"errors\":[7,", "\x7b\"message\":[\x7b\"descr\":\"x [1]\",", "\"loc\":\x7b\"source\":\"a\",",
    "\"start\":\x7b\"line\":0,\"column\":1\x7d,", "\"end\":\x7b\"line\":2,\"column\":4\x7d\x7d\x7d],",
    "\"extra\":[\x7b\"message\":[\x7b\"descr\":\"[1]\"", ",\"line\":5\x7d]\x7d]\x7d]\x7d"].flatMap Text.ofString

/-- The report that the output holds. -/
def sampleReport : Report :=
  ⟨[sampleEntry], [], none⟩

/-- The members of the output. -/
def sampleDocument : Members :=
  [("errors", .arr [.int 7, sampleItem])]

theorem check_sampleItem : Entry.check sampleItem = .good sampleEntry := by cbv

theorem read_sampleOutput :
    Json.read sampleOutput = .ok (.obj sampleDocument) := by cbv

theorem get?_sampleDocument :
    sampleDocument.get? "errors" = some (.arr [.int 7, sampleItem]) := by
  rw [sampleDocument, Members.get?, if_pos rfl]

theorem readableEntries_sampleItem :
    Report.readableEntries [.int 7, sampleItem] = [sampleEntry] := by
  simp only [Report.readableEntries, List.filterMap_cons, check_sampleItem]
  rfl

theorem decode_sampleOutput : decode sampleOutput = .ok (.report sampleReport sampleDocument) := by
  rw [decode, read_sampleOutput]
  dsimp only
  rw [Decoded.ofValue, get?_sampleDocument]
  dsimp only
  rw [readableEntries_sampleItem]
  rfl

/-- A text of one character that belongs to the file `a` of a project. -/
def sampleRequest : Request :=
  ⟨"x", "/p", "a", false⟩

/-- A session in which the next call gives an output. -/
def sampleSession (stdout : Text) : Session :=
  ⟨.start ⟨.prints (some stdout) 2, []⟩, .empty⟩

theorem collect_sampleOutput :
    (Checker.collect .scripted ⟨.root, []⟩ ⟨"flow", false⟩ sampleRequest (.ok (.ofInts 10 2))
      (sampleSession sampleOutput)).1 =
      .ok (.told ([.int 7, sampleItem].flatMap (tellings ⟨.root, []⟩ sampleRequest.root
        sampleRequest.file sampleReport.version 10 2))) ∧
    ([.int 7, sampleItem].flatMap (tellings ⟨.root, []⟩ sampleRequest.root sampleRequest.file
      sampleReport.version 10 2)).map (·.message) = [Text.ofString "x (see line 15)"] := by
  constructor
  · refine collect_eq_flatMap_tellings (by decide) rfl rfl decode_sampleOutput get?_sampleDocument ?_
    intro item hitem e he m hm
    rcases List.mem_pair.1 hitem with rfl | rfl
    · cases he
    · rw [check_sampleItem] at he
      cases he
      obtain rfl := List.mem_singleton.1 hm
      exact fewDigits_of_lt (by decide)
  · have hconcerns : sampleEntry.concerns ⟨.root, []⟩ sampleRequest.root
        (fileBelow ⟨.root, []⟩ sampleRequest.root sampleRequest.file) = true := by cbv
    have hwording : sampleEntry.wording sampleRequest.root sampleReport.version 10 =
        Text.ofString "x (see line 15)" := by cbv
    rw [flatMap_tellings, readableEntries_sampleItem, List.filter_cons_of_pos hconcerns]
    exact congrArg (fun t => [t]) hwording

section
variable {run : Runner} {cwd : Path} {c : Checker} {r : Request} {line column : Int} {s : Session}
  {stdout : Text} {code : Int} {x : Exchange}

/-- **When there are diagnostics.**  An output that is not empty gives
    diagnostics unless an integer in it has too many digits to be read, or a line
    that has to be told has too many to be written; nothing else can fail, and
    all integers that are read may be written again. -/
theorem collect_told_iff (hsource : r.source ≠ []) (hstdout : stdout ≠ [])
    (hrun : run (c.callFor "check-contents" r) s.exchange = (.ok ⟨some stdout, code⟩, x)) :
    ((∃ ds, (c.collect run cwd r (.ok (.ofInts line column)) s).1 = .ok (.told ds)) ↔
      (∀ cause, Json.read stdout ≠ .error (.tooLong cause)) ∧
        ∀ report document, decode stdout = .ok (.report report document) →
          ∀ e ∈ report.entries, e.Concerns cwd r.root r.file → e.Tellable line) ∧
    (∀ failure, (c.collect run cwd r (.ok (.ofInts line column)) s).1 = .error failure →
      (∃ cause, failure = .tooLong cause ∧ Json.LongRun cause stdout) ∨
        failure = .offset (.tooLong .writing)) ∧
    ∀ v, Json.read stdout = .ok v → v.Writable := by
  rw [Checker.collect_of_output hsource hstdout hrun]
  refine ⟨?_, ?_, fun v hv => Json.writable_of_read hv⟩
  · rcases diagnose_cases cwd c.debug r.root r.file line column stdout with
      ⟨cause, hread, hd⟩ | ⟨report, document, hdecode, hnot, hd⟩ | ⟨hread, htell, ds, hd⟩
    · rw [hd]
      constructor
      · rintro ⟨ds, h⟩; cases h
      · rintro ⟨h, -⟩; exact absurd hread (h cause)
    · rw [hd]
      constructor
      · rintro ⟨ds, h⟩; cases h
      · rintro ⟨-, h⟩; exact absurd (h report document hdecode) hnot
    · rw [hd]
      exact ⟨fun _ => ⟨hread, htell⟩, fun _ => ⟨ds, rfl⟩⟩
  · intro failure h
    rcases diagnose_cases cwd c.debug r.root r.file line column stdout with
      ⟨cause, hread, hd⟩ | ⟨_, _, _, _, hd⟩ | ⟨_, _, ds, hd⟩
    · rw [hd] at h
      cases h
      exact Or.inl ⟨cause, rfl, Json.longRun_of_read hread⟩
    · rw [hd] at h
      cases h
      exact Or.inr rfl
    · rw [hd] at h
      cases h

end

theorem collect_ones : ¬ ∃ ds,
    (Checker.collect .scripted ⟨.root, []⟩ ⟨"flow", false⟩ sampleRequest (.ok (.ofInts 0 0))
      (sampleSession (List.replicate 4301 (.char '1')))).1 = .ok (.told ds) := by
  have hsource : sampleRequest.source ≠ [] := by decide
  have hstdout : List.replicate 4301 (CodePoint.char '1') ≠ [] :=
    mt (List.replicate_eq_nil_iff _).1 (by decide)
  intro h
  exact ((collect_told_iff hsource hstdout rfl).1.1 h).1 _ (Json.read_ones (by decide))

end FlowLens
