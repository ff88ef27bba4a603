/-
  How outputs are sorted: into reports, endings and what cannot be used.

  * `Members.FrameFits`: what an object says besides its list of errors can be taken,
    which is all that `Report.checkAround` asks for (`Report.passes_checkAround`);
  * `Value.IsReport` and `Value.IsEnding`, said of the document alone, and
    `Decoded.kind_ofValue`: each document is sorted accordingly;
  * `kind_decode_put`: an entry cannot change the kind of an output;
  * `decode_sorts`: all of it for the output of a checker, and what is told if it is
    no report.
-/
import FlowLens.Proofs.Debugging
import Mathlib

namespace FlowLens

/-! ## What counts as given -/

/-- The values that do not count as given. -/
inductive Value.Void : Value → Prop
  | null : Void .null
  | no : Void (.bool false)
  | zero : Void (.int 0)
  | zeroDouble {x : Double} : x.isZero = true → Void (.float x)
  | noText : Void (.str [])
  | noItems : Void (.arr [])
  | noMembers : Void (.obj [])

theorem Value.isPresent_iff {v : Value} : v.isPresent = true ↔ ¬ v.Void := by
  constructor
  · rintro h (_ | _ | _ | hzero | _ | _ | _)
    case zeroDouble => simp [isPresent, hzero] at h
    all_goals cases h
  · intro h
    by_contra hnot
    rw [Bool.not_eq_true] at hnot
    refine h ?_
    cases v with
    | null => exact .null
    | bool b => cases b with
      | false => exact .no
      | true => cases hnot
    | int n =>
      obtain rfl : n = 0 := by simpa [isPresent] using hnot
      exact .zero
    | float x => exact .zeroDouble (by simpa [isPresent] using hnot)
    | str t =>
      obtain rfl : t = [] := by simpa [isPresent] using hnot
      exact .noText
    | moment t => cases hnot
    | arr items =>
      obtain rfl : items = [] := by simpa [isPresent] using hnot
      exact .noItems
    | obj members =>
      obtain rfl : members = [] := by simpa [isPresent] using hnot
      exact .noMembers

/-! ## What is around the list of errors -/

/-- A status that can be taken: a text, a number or what stands for one. -/
inductive StatusFits : Value → Prop
  | word (t : Text) : StatusFits (.str t)
  | number (n : Int) : StatusFits (.int n)
  | truth (b : Bool) : StatusFits (.bool b)
  | whole {x : Double} {n : Int} : x.whole? = some n → -2 ^ 63 < n → n < 2 ^ 63 →
      StatusFits (.float x)

/-- A note on the ending that can be taken: `null`, or an object whose parts can. -/
inductive NoteFits : Value → Prop
  | null : NoteFits .null
  | note {members : Members} : (∀ v, members.get? "msg" = some v → ∃ t, v = .str t) →
      (∀ v, members.get? "code" = some v → v = .null ∨ StatusFits v) → NoteFits (.obj members)

/-- What an object says besides its list of errors can be taken.  The version may go
    by either of two names, of which the first decides. -/
structure Members.FrameFits (members : Members) : Prop where
  version : ∀ v, (members.get? "flowVersion").or (members.get? "flow_version") = some v →
    ∃ t, v = .str t
  exit : ∀ v, members.get? "exit" = some v → NoteFits v

theorem passes_checkInt_float {x : Double} :
    (checkInt (.float x)).Passes ↔ ∃ n, x.whole? = some n ∧ -2 ^ 63 < n ∧ n < 2 ^ 63 := by
  have hbound : (twoTo 63 : Int) = 2 ^ 63 := by norm_num [twoTo]
  cases x with
  | finite s m e =>
    simp only [checkInt, Double.isFinite, if_true, hbound]
    cases hwhole : Double.whole? (.finite s m e) with
    | none => simp [Checked.fail, Checked.not_passes_bad]
    | some n =>
      dsimp only
      split_ifs with hn
      · exact ⟨fun _ => ⟨n, rfl, hn⟩, fun _ => Checked.passes_good n⟩
      · refine ⟨fun h => absurd h (Checked.not_passes_bad _), ?_⟩
        rintro ⟨n', hn', hlt⟩
        cases hn'
        exact absurd hlt hn
  | _ => simp [checkInt, Double.isFinite, Double.whole?, Checked.fail, Checked.not_passes_bad]

theorem ExitCode.passes_check {v : Value} : (ExitCode.check v).Passes ↔ StatusFits v := by
  cases v with
  | str t => exact ⟨fun _ => .word t, fun _ => Checked.passes_good _⟩
  | int n => exact ⟨fun _ => .number n, fun _ => Checked.passes_good _⟩
  | bool b => exact ⟨fun _ => .truth b, fun _ => Checked.passes_good _⟩
  | float x =>
    have hcheck : (ExitCode.check (.float x)).Passes ↔ (checkInt (.float x)).Passes := by
      simp only [ExitCode.check]
      cases checkInt (.float x) with
      | good n => exact ⟨fun _ => Checked.passes_good _, fun _ => Checked.passes_good _⟩
      | bad problems =>
        exact ⟨fun h => absurd h (Checked.not_passes_bad _),
          fun h => absurd h (Checked.not_passes_bad _)⟩
    rw [hcheck, passes_checkInt_float]
    constructor
    · rintro ⟨n, hn, hlow, hhigh⟩
      exact .whole hn hlow hhigh
    · rintro ⟨⟩
      exact ⟨_, ‹_›, ‹_›, ‹_›⟩
  | null | moment | arr | obj =>
    refine ⟨fun h => absurd h (Checked.not_passes_bad _), ?_⟩
    rintro ⟨⟩

theorem ExitNote.passes_check {v : Value} :
    v = .null ∨ (ExitNote.check v).Passes ↔ NoteFits v := by
  simp only [ExitNote.check, passes_checkRecord, Checked.passes_seq, Checked.passes_map,
    Members.passes_optional, Members.lookup?_plain, Option.map_eq_some_iff, passes_checkText,
    passes_checkNullable, ExitCode.passes_check]
  constructor
  · rintro (rfl | ⟨members, rfl, hmsg, hcode⟩)
    · exact .null
    · exact .note (fun v hv => hmsg _ ⟨v, hv, rfl⟩) fun v hv => hcode _ ⟨v, hv, rfl⟩
  · rintro (_ | ⟨hmsg, hcode⟩)
    · exact Or.inl rfl
    · refine Or.inr ⟨_, rfl, ?_, ?_⟩
      · rintro _ ⟨v, hv, rfl⟩
        exact hmsg v hv
      · rintro _ ⟨v, hv, rfl⟩
        exact hcode v hv

/-- **The entries have no part** in whether a report can be taken. -/
theorem Report.passes_checkAround (entries : List Entry) {members : Members} :
    (checkAround (.good entries) members).Passes ↔ members.FrameFits := by
  have hversion : ∀ v, (members.lookup? versionField).map (·.2) = some v ↔
      (members.get? "flowVersion").or (members.get? "flow_version") = some v := by
    intro v
    unfold Members.lookup? versionField
    cases members.get? "flowVersion" <;> simp
  simp only [checkAround, Checked.passes_seq, Checked.passes_map, Members.passes_optional,
    Members.lookup?_plain, Option.map_eq_some_iff, passes_checkText, passes_checkNullable,
    ExitNote.passes_check]
  constructor
  · rintro ⟨⟨-, htext⟩, hexit⟩
    refine ⟨fun v hv => ?_, fun v hv => hexit _ ⟨v, hv, rfl⟩⟩
    obtain ⟨m, hm, rfl⟩ := Option.map_eq_some_iff.1 ((hversion v).2 hv)
    exact htext m hm
  · intro h
    refine ⟨⟨Checked.passes_good _, fun m hm => ?_⟩, ?_⟩
    · exact h.version _ ((hversion _).1 (Option.map_eq_some_iff.2 ⟨m, hm, rfl⟩))
    · rintro _ ⟨v, hv, rfl⟩
      exact h.exit v hv

/-! ## Documents -/

/-- The object has a list of errors. -/
def Members.ListsErrors (members : Members) : Prop :=
  ∃ items, members.get? "errors" = some (.arr items)

/-- A document that is a report: an object with a list of errors, and with nothing
    else that cannot be taken. -/
def Value.IsReport (v : Value) : Prop :=
  ∃ members : Members, v = .obj members ∧ members.ListsErrors ∧ members.FrameFits

/-- A document that tells an ending in place of a report. -/
def Value.IsEnding (v : Value) : Prop :=
  ∃ members : Members, v = .obj members ∧ ¬ members.ListsErrors ∧
    ∃ exit, members.get? "exit" = some exit ∧ ¬ exit.Void

theorem Value.IsReport.not_isEnding {v : Value} (h : v.IsReport) : ¬ v.IsEnding := by
  obtain ⟨members, rfl, hlists, -⟩ := h
  rintro ⟨_, hv, hnot, -⟩
  cases hv
  exact hnot hlists

/-- **Another list of errors** leaves what is around it as it was. -/
theorem Members.frameFits_put {members : Members} {v : Value} :
    Members.FrameFits (members.put "errors" v) ↔ members.FrameFits := by
  have hget : ∀ name : Text, name ≠ "errors" →
      (members.put "errors" v).get? name = members.get? name := by
    intro name hname
    rw [get?_put, if_neg hname]
  have hversion := hget "flowVersion" (by decide)
  have hname := hget "flow_version" (by decide)
  have hexit := hget "exit" (by decide)
  constructor
  · rintro ⟨h, h'⟩
    rw [hversion, hname] at h
    rw [hexit] at h'
    exact ⟨h, h'⟩
  · rintro ⟨h, h'⟩
    refine ⟨?_, ?_⟩
    · rwa [hversion, hname]
    · rwa [hexit]

namespace Decoded

/-- The three kinds of output. -/
inductive Kind where
  | report
  | ended
  | unusable
  deriving DecidableEq

/-- What an output was sorted into. -/
def kind : Decoded → Kind
  | report _ _ => .report
  | ended _ => .ended
  | unusable _ => .unusable

theorem kind_ofUnreported {members : Members} (hlists : ¬ members.ListsErrors) :
    (ofUnreported members).kind = .ended ∧ (Value.obj members).IsEnding ∨
      (ofUnreported members).kind = .unusable ∧ ¬ (Value.obj members).IsEnding := by
  unfold ofUnreported
  cases hexit : members.get? "exit" with
  | none =>
    refine Or.inr ⟨rfl, ?_⟩
    rintro ⟨_, hv, -, v, hget, -⟩
    cases hv
    rw [hexit] at hget
    cases hget
  | some v =>
    dsimp only
    split_ifs with hpresent
    · exact Or.inl ⟨rfl, members, rfl, hlists, v, hexit, Value.isPresent_iff.1 hpresent⟩
    · refine Or.inr ⟨rfl, ?_⟩
      rintro ⟨_, hv, -, v', hget, hvoid⟩
      cases hv
      rw [hexit] at hget
      cases hget
      exact hpresent (Value.isPresent_iff.2 hvoid)

/-- A document is sorted by what it is. -/
theorem kind_ofValue (v : Value) :
    (ofValue v).kind = .report ∧ v.IsReport ∨
      (ofValue v).kind = .ended ∧ v.IsEnding ∨
      (ofValue v).kind = .unusable ∧ ¬ v.IsReport ∧ ¬ v.IsEnding := by
  cases v with
  | obj members =>
    by_cases hlists : Members.ListsErrors members
    · obtain ⟨items, hitems⟩ := hlists
      have hnot : ¬ (Value.obj members).IsEnding := by
        rintro ⟨_, hv, hnone, -⟩
        cases hv
        exact hnone ⟨items, hitems⟩
      have hpasses : _ ↔ Members.FrameFits members :=
        Report.passes_checkAround (Report.readableEntries items)
      rw [ofValue, hitems]
      dsimp only
      cases hcheck : Report.checkAround (.good (Report.readableEntries items)) members with
      | good r => exact Or.inl ⟨rfl, members, rfl, ⟨items, hitems⟩, hpasses.1 ⟨r, hcheck⟩⟩
      | bad problems =>
        refine Or.inr (Or.inr ⟨rfl, ?_, hnot⟩)
        rintro ⟨_, hv, -, hfits⟩
        cases hv
        obtain ⟨r, hr⟩ := hpasses.2 hfits
        rw [hcheck] at hr
        cases hr
    · have hnot : ¬ (Value.obj members).IsReport := by
        rintro ⟨_, hv, hsome, -⟩
        cases hv
        exact hlists hsome
      have hof : ofValue (.obj members) = ofUnreported members := by
        rw [ofValue]
        split
        · next items hitems => exact absurd ⟨items, hitems⟩ hlists
        · rfl
      rw [hof]
      rcases kind_ofUnreported hlists with ⟨hkind, hending⟩ | ⟨hkind, hending⟩
      · exact Or.inr (Or.inl ⟨hkind, hending⟩)
      · exact Or.inr (Or.inr ⟨hkind, hnot, hending⟩)
  | _ =>
    refine Or.inr (Or.inr ⟨rfl, ?_, ?_⟩)
    · rintro ⟨_, hv, -⟩; cases hv
    · rintro ⟨_, hv, -⟩; cases hv

end Decoded

/-! ## Outputs -/

/-- The output holds a document of some sort. -/
def Holds (p : Value → Prop) (stdout : Text) : Prop :=
  ∃ v, Json.read stdout = .ok v ∧ p v

section
variable {stdout : Text} {d : Decoded}

/-- An output is sorted by the document that it holds. -/
theorem kind_decode (h : decode stdout = .ok d) :
    (d.kind = .report ↔ Holds Value.IsReport stdout) ∧
      (d.kind = .ended ↔ Holds Value.IsEnding stdout) ∧
      (d.kind = .unusable ↔ ¬ Holds Value.IsReport stdout ∧ ¬ Holds Value.IsEnding stdout) := by
  unfold decode at h
  cases hread : Json.read stdout with
  | ok v =>
    rw [hread] at h
    cases h
    have hholds : ∀ p : Value → Prop, Holds p stdout ↔ p v := by
      intro p
      simp [Holds, hread]
    simp only [hholds]
    rcases Decoded.kind_ofValue v with ⟨hkind, hreport⟩ | ⟨hkind, hending⟩ | ⟨hkind, hreport, hending⟩
    · have := hreport.not_isEnding
      simp [*]
    · have hreport : ¬ v.IsReport := fun h => h.not_isEnding hending
      simp [*]
    · simp [*]
  | error e =>
    rw [hread] at h
    cases e with
    | tooLong cause => cases h
    | malformed fault =>
      cases h
      have hholds : ∀ p : Value → Prop, ¬ Holds p stdout := by
        rintro p ⟨v, hv, -⟩
        rw [hread] at hv
        cases hv
      simp [Decoded.kind, hholds]

/-- The entries of a list that can be read, in order. -/
theorem Report.forall₂_readableEntries (items : List Value) :
    List.Forall₂ (fun v e => Entry.check v = .good e)
      (items.filter fun v => (Entry.check v).toOption.isSome) (readableEntries items) := by
  induction items with
  | nil => exact .nil
  | cons v rest ih =>
    unfold readableEntries at ih ⊢
    cases hcheck : Entry.check v with
    | good e =>
      rw [List.filter_cons_of_pos (by rw [hcheck]; rfl), List.filterMap_cons_some (by rw [hcheck]; rfl)]
      exact .cons hcheck ih
    | bad problems =>
      rw [List.filter_cons_of_neg (by rw [hcheck]; simp [Checked.toOption]),
        List.filterMap_cons_none (by rw [hcheck]; rfl)]
      exact ih

/-- A diagnostic for a whole run: an error that belongs to no rule and no file, and
    stands where nothing has been moved. -/
structure Diagnostic.IsFatal (t : Diagnostic) : Prop where
  severity : t.severity = .error
  rule : t.rule = none
  path : t.path = none
  span : t.span = ⟨⟨1, 1, none⟩, ⟨1, 1, none⟩⟩

theorem Decoded.exists_fatal (h : d.kind ≠ .report) : ∃ t, d.fatal = [t] ∧ t.IsFatal := by
  cases d with
  | report r document => exact absurd rfl h
  | ended e => exact ⟨_, rfl, rfl, rfl, rfl, rfl⟩
  | unusable reason => exact ⟨_, rfl, rfl, rfl, rfl, rfl⟩

theorem diagnose_of_kind {cwd : Path} {debug : Bool} {root file : Text} {offset : Offset}
    (hdecode : decode stdout = .ok d) (h : d.kind ≠ .report) :
    diagnose cwd debug root file offset stdout = .ok d.fatal := by
  unfold diagnose
  rw [hdecode]
  cases d with
  | report r document => exact absurd rfl h
  | ended | unusable => rfl

/-- A checker that prints nothing is taken to be one that cannot be run here. -/
theorem Checker.collect_of_silence {run : Runner} {cwd : Path} {c : Checker} {r : Request}
    {offset : Offset} {s : Session} {code : Int} {x : Exchange} (hsource : r.source ≠ [])
    (hrun : run (c.callFor "check-contents" r) s.exchange = (.ok ⟨some [], code⟩, x)) :
    (c.collect run cwd r (.ok offset) s).1 = .ok (.unsupported noOutput) := by
  have hinvoke : (c.invoke run "check-contents" r s).1 = .ok (.unsupported noOutput) := by
    unfold invoke
    rw [if_neg (by simpa using hsource), hrun]
    rfl
  unfold collect collectAt
  rcases hp : c.invoke run "check-contents" r s with ⟨invocation, s'⟩
  rw [hp] at hinvoke
  obtain rfl : invocation = _ := hinvoke
  rfl

/-- The kind of an output depends on nothing but whether it holds a report and whether
    it holds an ending. -/
theorem kind_eq_of_holds_iff {stdout' : Text} {d' : Decoded} (h : decode stdout = .ok d)
    (h' : decode stdout' = .ok d')
    (hreport : Holds Value.IsReport stdout' ↔ Holds Value.IsReport stdout)
    (hending : Holds Value.IsEnding stdout' ↔ Holds Value.IsEnding stdout) : d'.kind = d.kind := by
  obtain ⟨hr, he, hu⟩ := kind_decode h
  obtain ⟨hr', he', hu'⟩ := kind_decode h'
  rw [hreport] at hr' hu'
  rw [hending] at he' hu'
  cases hkind : d.kind with
  | report => exact hr'.2 (hr.1 hkind)
  | ended => exact he'.2 (he.1 hkind)
  | unusable => exact hu'.2 (hu.1 hkind)

/-- **An entry cannot change the kind** of an output: one that has another list of
    errors in place of its own is of the same kind. -/
theorem kind_decode_put {members : Members} {items items' : List Value} {stdout' : Text}
    (hdecode : decode stdout = .ok d) (hread : Json.read stdout = .ok (.obj members))
    (hitems : members.get? "errors" = some (.arr items))
    (hread' : Json.read stdout' = .ok (.obj (members.put "errors" (.arr items')))) :
    ∃ d', decode stdout' = .ok d' ∧ d'.kind = d.kind := by
  have hlists : Members.ListsErrors members := ⟨items, hitems⟩
  have hlists' : Members.ListsErrors (members.put "errors" (.arr items')) :=
    ⟨items', by rw [Members.get?_put, if_pos rfl]⟩
  refine ⟨.ofValue (.obj (members.put "errors" (.arr items'))), by rw [decode, hread'],
    kind_eq_of_holds_iff hdecode (by rw [decode, hread']) ?_ ?_⟩
  · simp [Holds, hread, hread', Value.IsReport, hlists, hlists', Members.frameFits_put]
  · simp [Holds, hread, hread', Value.IsEnding, hlists, hlists']

/-- **Outputs are sorted by what they hold.**  An output that can be read, or that is no
    JSON, is a report if it holds one, whatever the entries are, an ending if it holds
    one, and of no use otherwise; another list of errors never makes a difference.  A
    report has the entries that can be read, in order, and comes with all that was
    read.  Without one a single error is told that is not moved by the offset; only
    where nothing at all was printed is there nothing to sort. -/
theorem decode_sorts (hread : ∀ cause, Json.read stdout ≠ .error (.tooLong cause)) :
    ∃ d, decode stdout = .ok d ∧
    (d.kind = .report ↔ Holds Value.IsReport stdout) ∧
    (d.kind = .ended ↔ Holds Value.IsEnding stdout) ∧
    (d.kind = .unusable ↔ ¬ Holds Value.IsReport stdout ∧ ¬ Holds Value.IsEnding stdout) ∧
    (∀ (members : Members) (items items' : List Value) (stdout' : Text),
      Json.read stdout = .ok (.obj members) → members.get? "errors" = some (.arr items) →
      Json.read stdout' = .ok (.obj (members.put "errors" (.arr items'))) →
      ∃ d', decode stdout' = .ok d' ∧ d'.kind = d.kind) ∧
    (∀ r document, d = .report r document → Json.read stdout = .ok (.obj document) ∧
      ∃ items, document.get? "errors" = some (.arr items) ∧
        List.Forall₂ (fun v e => Entry.check v = .good e)
          (items.filter fun v => (Entry.check v).toOption.isSome) r.entries) ∧
    (d.kind ≠ .report → ∀ (run : Runner) (cwd : Path) (c : Checker) (r : Request)
      (offset : Offset) (s : Session) (code : Int) (x : Exchange), r.source ≠ [] →
      run (c.callFor "check-contents" r) s.exchange = (.ok ⟨some stdout, code⟩, x) →
      if stdout = [] then
        (c.collect run cwd r (.ok offset) s).1 = .ok (.unsupported Checker.noOutput)
      else ∃ t, (c.collect run cwd r (.ok offset) s).1 = .ok (.told [t]) ∧ t.IsFatal) := by
  obtain ⟨d, hdecode⟩ := decode_eq_ok hread
  obtain ⟨hreport, hending, hunusable⟩ := kind_decode hdecode
  refine ⟨d, hdecode, hreport, hending, hunusable, ?_, ?_, ?_⟩
  · intro members items items' stdout' hobj hitems hobj'
    exact kind_decode_put hdecode hobj hitems hobj'
  · rintro r document rfl
    obtain ⟨hobj, items, hitems, hentries⟩ := decode_eq_report hdecode
    refine ⟨hobj, items, hitems, ?_⟩
    rw [hentries]
    exact Report.forall₂_readableEntries items
  · intro hkind run cwd c r offset s code x hsource hrun
    split_ifs with hstdout
    · subst hstdout
      exact Checker.collect_of_silence hsource hrun
    · obtain ⟨t, ht, hfatal⟩ := Decoded.exists_fatal hkind
      refine ⟨t, ?_, hfatal⟩
      rw [Checker.collect_of_output hsource hstdout hrun, diagnose_of_kind hdecode hkind, ht]
      rfl

end

/-- An empty output is no report either, but it is not even sorted: a checker that
    prints nothing is taken to be one that cannot be run here. -/
theorem collect_emptyOutput :
    (∀ cause, Json.read [] ≠ .error (.tooLong cause)) ∧
    (∃ d, decode [] = .ok d ∧ d.kind = .unusable) ∧
    ¬ ∃ ts, (Checker.collect .scripted ⟨.root, []⟩ ⟨"flow", false⟩ sampleRequest
      (.ok (.ofInts 10 2)) (sampleSession [])).1 = .ok (.told ts) := by
  refine ⟨?_, ⟨.unusable (.notJson .valueExpected), rfl, rfl⟩, ?_⟩
  · intro cause h
    cases h
  · rintro ⟨ts, h⟩
    have hsilence : (Checker.collect .scripted ⟨.root, []⟩ ⟨"flow", false⟩ sampleRequest
        (.ok (.ofInts 10 2)) (sampleSession [])).1 = .ok (.unsupported Checker.noOutput) :=
      Checker.collect_of_silence (by decide) rfl
    rw [hsilence] at h
    cases h

/-- An output that has no list under the name of the errors, but tells an ending. -/
def endingOutput : Text :=
  "\x7b\"errors\":\x7b\x7d,\"exit\":\x7b\"code\":12\x7d\x7d"

theorem read_endingOutput : Json.read endingOutput =
    .ok (.obj [("errors", .obj []), ("exit", .obj [("code", .int 12)])]) := by
  cbv

/-- The ending is told as a single error. -/
theorem decode_endingOutput :
    (∀ cause, Json.read endingOutput ≠ .error (.tooLong cause)) ∧
    ∃ d, decode endingOutput = .ok d ∧ d.kind = .ended ∧
      ∃ t, (Checker.collect .scripted ⟨.root, []⟩ ⟨"flow", false⟩ sampleRequest
        (.ok (.ofInts 10 2)) (sampleSession endingOutput)).1 = .ok (.told [t]) ∧ t.IsFatal := by
  have hread : ∀ cause, Json.read endingOutput ≠ .error (.tooLong cause) := by
    intro cause h
    rw [read_endingOutput] at h
    cases h
  have hending : Holds Value.IsEnding endingOutput := by
    refine ⟨_, read_endingOutput, _, rfl, ?_, .obj [("code", .int 12)], by cbv, by rintro ⟨⟩⟩
    rintro ⟨items, h⟩
    rw [Members.get?, if_pos rfl] at h
    cases h
  obtain ⟨d, hdecode, -, hended, -, -, -, htold⟩ := decode_sorts hread
  have hkind := hended.2 hending
  have hnot : d.kind ≠ .report := by
    rw [hkind]
    decide
  have htold := htold hnot .scripted ⟨.root, []⟩ ⟨"flow", false⟩ sampleRequest (.ofInts 10 2)
    (sampleSession endingOutput) 2 _ (by decide) rfl
  rw [if_neg (by decide)] at htold
  exact ⟨hread, d, hdecode, hkind, htold⟩

end FlowLens
