/-
  Records that are written out and checked again.  A check may read a value in
  more than one way; what it makes of a document is written in one way, and
  that is read as it was meant.

  * `Members.ofFields`, a record's members by field, and `Members.lookup?_ofFields`:
    each field is found again, whether it is written by its name or by its key;
  * `check_toValue` for each kind of record: a record is checked to be what it was;
  * `Settles`: what a check makes of a document stays as it is when it is written and
    checked again, and `records_settle`, for every kind of record.
-/
import FlowLens.Proofs.SettingsFaults
import FlowLens.Proofs.Spelling
import FlowLens.Report.Coverage
import FlowLens.Report.Envelope
import Mathlib

namespace FlowLens

/-! ## Members by field -/

namespace Field

variable {f g : Field}

theorem Apart.symm (h : f.Apart g) : g.Apart f :=
  ⟨h.1.symm, h.2.2.1.symm, h.2.1.symm, h.2.2.2.symm⟩

theorem Apart.label_ne (h : f.Apart g) (naming : Naming) :
    f.label naming ≠ g.key ∧ f.label naming ≠ g.name := by
  obtain ⟨hkeys, hkeyName, hnameKey, hnames⟩ := h
  cases naming
  · exact ⟨hnameKey, hnames⟩
  · exact ⟨hkeys, hkeyName⟩

end Field

namespace Members

/-- The members of a record: what is given of each field, under one naming. -/
def ofFields (naming : Naming) (entries : List (Field × Option Value)) : Members :=
  entries.filterMap fun e => e.2.map (e.1.label naming, ·)

variable {α : Type} {naming : Naming} {entries : List (Field × Option Value)} {f g : Field}
  {o : Option Value} {v : Value} {check : Value → Checked α} {a fallback : α}

theorem get?_ofFields_cons_of_ne {n : Text} (h : g.label naming ≠ n) :
    (ofFields naming ((g, o) :: entries)).get? n = (ofFields naming entries).get? n := by
  cases o with
  | none => rfl
  | some v => exact if_neg h

theorem get?_ofFields_cons_self :
    (ofFields naming ((f, some v) :: entries)).get? (f.label naming) = some v :=
  if_pos rfl

theorem lookup?_ofFields_cons_of_apart (h : g.Apart f) :
    (ofFields naming ((g, o) :: entries)).lookup? f = (ofFields naming entries).lookup? f := by
  obtain ⟨hkey, hname⟩ := h.label_ne naming
  rw [lookup?, lookup?, get?_ofFields_cons_of_ne hkey, get?_ofFields_cons_of_ne hname]

theorem lookup?_ofFields_eq_none (h : ∀ g ∈ entries.map Prod.fst, g.Apart f) :
    (ofFields naming entries).lookup? f = none := by
  induction entries with
  | nil => rfl
  | cons e rest ih =>
    obtain ⟨g, o⟩ := e
    rw [List.map_cons, List.forall_mem_cons] at h
    rw [lookup?_ofFields_cons_of_apart h.1, ih h.2]

/-- A field that stands in front of others is found under what it is called. -/
theorem lookup?_ofFields_cons_self (h : ∀ g ∈ entries.map Prod.fst, g.Apart f) :
    (ofFields naming ((f, o) :: entries)).lookup? f = o.map (f.label naming, ·) := by
  have hrest : (ofFields naming entries).lookup? f = none := lookup?_ofFields_eq_none h
  cases o with
  | none => exact hrest
  | some v =>
    cases naming with
    | byKey =>
      have hkey : (ofFields .byKey ((f, some v) :: entries)).get? f.key = some v :=
        get?_ofFields_cons_self
      rw [lookup?, hkey]
      rfl
    | byName =>
      have hname : (ofFields .byName ((f, some v) :: entries)).get? f.name = some v :=
        get?_ofFields_cons_self
      by_cases heq : f.name = f.key
      · rw [lookup?, ← heq, hname]
        rfl
      · have hkey : (ofFields .byName entries).get? f.key = none := by
          cases hget : (ofFields .byName entries).get? f.key with
          | none => rfl
          | some w =>
            rw [lookup?, hget] at hrest
            cases hrest
        have hne : f.label .byName ≠ f.key := heq
        rw [lookup?, get?_ofFields_cons_of_ne hne, hkey, hname]
        rfl

/-- **Every field is found again**, under either naming. -/
theorem lookup?_ofFields (hapart : (entries.map Prod.fst).Pairwise Field.Apart)
    (hmem : (f, o) ∈ entries) :
    (ofFields naming entries).lookup? f = o.map (f.label naming, ·) := by
  induction entries with
  | nil => cases hmem
  | cons e rest ih =>
    obtain ⟨g, w⟩ := e
    rw [List.map_cons, List.pairwise_cons] at hapart
    obtain ⟨hfirst, hrest⟩ := hapart
    rcases List.mem_cons.1 hmem with heq | hmem
    · cases heq
      exact lookup?_ofFields_cons_self fun h hh => (hfirst h hh).symm
    · have hg : g.Apart f := hfirst f (List.mem_map_of_mem hmem)
      rw [lookup?_ofFields_cons_of_apart hg, ih hrest hmem]

/-- What is given of a field is taken for `a`. -/
def Taken (check : Value → Checked α) (fallback : α) (a : α) : Option Value → Prop
  | none => a = fallback
  | some v => check v = .good a

theorem optional_ofFields (hapart : (entries.map Prod.fst).Pairwise Field.Apart) (i : Nat)
    (hi : entries[i]? = some (f, o)) (htaken : Taken check fallback a o) :
    (ofFields naming entries).optional f fallback check = .good a := by
  rw [optional_eq_good_iff, lookup?_ofFields hapart (List.mem_of_getElem? hi)]
  cases o with
  | none => exact .inl ⟨rfl, htaken⟩
  | some v => exact .inr ⟨_, v, rfl, htaken⟩

theorem required_ofFields (hapart : (entries.map Prod.fst).Pairwise Field.Apart) (i : Nat)
    (hi : entries[i]? = some (f, some v)) (hcheck : check v = .good a) :
    (ofFields naming entries).required f check = .good a := by
  rw [required, lookup?_ofFields hapart (List.mem_of_getElem? hi)]
  exact Checked.under_eq_good_iff.2 hcheck

/-- A record has no members besides its fields. -/
theorem unknown_ofFields (hapart : (entries.map Prod.fst).Pairwise Field.Apart) :
    (ofFields naming entries).unknown (entries.map Prod.fst) = [] := by
  refine List.filter_eq_nil_iff.2 fun m hm => ?_
  obtain ⟨⟨f, o⟩, he, hgiven⟩ := List.mem_filterMap.1 hm
  have hlookup : (ofFields naming entries).lookup? f = some m :=
    (lookup?_ofFields hapart he).trans hgiven
  have hknown : m.1 ∈ (ofFields naming entries).known (entries.map Prod.fst) :=
    mem_known_iff.2 ⟨f, List.mem_map_of_mem he, m.2, hlookup⟩
  simp [hknown]

end Members

/-! ## Absent values and lists -/

section
variable {α : Type} {check : Value → Checked α} {write : α → Value}

/-- A value that may be absent is taken for what it is if `null` is written for it. -/
theorem Members.taken_ofOption (write : α → Value) {o fallback : Option α}
    (h : ∀ a ∈ o, write a ≠ .null ∧ check (write a) = .good a) :
    Taken (checkNullable check) fallback o (some (.ofOption write o)) := by
  refine checkNullable_eq_good_iff.2 ?_
  cases o with
  | none => exact .inl ⟨rfl, rfl⟩
  | some a => exact .inr ⟨(h a rfl).1, a, (h a rfl).2, rfl⟩

/-- A value that may be absent is taken for what it is if nothing is written for it. -/
theorem Members.taken_map (write : α → Value) {o : Option α}
    (h : ∀ a ∈ o, write a ≠ .null ∧ check (write a) = .good a) :
    Taken (checkNullable check) none o (o.map write) := by
  cases o with
  | none => rfl
  | some a => exact checkNullable_eq_good_iff.2 (.inr ⟨(h a rfl).1, a, (h a rfl).2, rfl⟩)

theorem collectAll_checkEach_map {as : List α} (h : ∀ a ∈ as, check (write a) = .good a) (i : Nat) :
    collectAll (checkEach check i (as.map write)) = .good as := by
  induction as generalizing i with
  | nil => rfl
  | cons a rest ih =>
    rw [List.forall_mem_cons] at h
    rw [List.map_cons, checkEach, collectAll, ih h.2 (i + 1), h.1]
    rfl

theorem checkList_map {as : List α} (h : ∀ a ∈ as, check (write a) = .good a) :
    checkList check (.arr (as.map write)) = .good as :=
  collectAll_checkEach_map h 0

theorem checkNonEmpty_map {a : α} {as : List α} (h : ∀ b ∈ a :: as, check (write b) = .good b) :
    checkNonEmpty check (.arr ((a :: as).map write)) = .good (a, as) := by
  simp only [checkNonEmpty, collectAll_checkEach_map h]

end

/-! ## Positions, spans and places -/

namespace Checked

variable {α β : Type} {f : α → β} {a : α}

theorem map_good {c : Checked α} (h : c = .good a) : f <$> c = .good (f a) := by
  rw [h]
  rfl

theorem seq_good {g : Checked (α → β)} {c : Checked α} (hg : g = .good f) (hc : c = .good a) :
    g <*> c = .good (f a) := by
  rw [hg, hc]
  rfl

end Checked

namespace Position

/-- A position by field, with what is given of its offset. -/
def entries (p : Position) (offset : Option Value) : List (Field × Option Value) :=
  [(.plain "line", some (.int p.line)), (.plain "column", some (.int p.column)),
    (.plain "offset", offset)]

theorem apart_entries (p : Position) (offset : Option Value) :
    ((p.entries offset).map Prod.fst).Pairwise Field.Apart :=
  show [Field.plain "line", .plain "column", .plain "offset"].Pairwise Field.Apart by decide

theorem check_entries {p : Position} {offset : Option Value}
    (h : Members.Taken (checkNullable checkInt) none p.offset offset) (naming : Naming) :
    check (.obj (Members.ofFields naming (p.entries offset))) = .good p := by
  have hapart := p.apart_entries offset
  refine Checked.seq_good (Checked.seq_good (Checked.map_good ?line) ?column) ?offset
  case line => exact Members.required_ofFields hapart 0 rfl rfl
  case column => exact Members.required_ofFields hapart 1 rfl rfl
  case offset => exact Members.optional_ofFields hapart 2 rfl h

theorem check_toValue (p : Position) : check p.toValue = .good p :=
  check_entries (Members.taken_ofOption .int fun _ _ => ⟨nofun, rfl⟩) .byKey

theorem payload_eq (p : Position) :
    p.payload = .obj (Members.ofFields .byKey (p.entries (p.offset.map .int))) := by
  obtain ⟨line, column, _ | offset⟩ := p <;> rfl

theorem check_payload (p : Position) : check p.payload = .good p := by
  rw [payload_eq]
  exact check_entries (Members.taken_map .int fun _ _ => ⟨nofun, rfl⟩) .byKey

end Position

namespace Span

theorem check_pair {s : Span} {v w : Value} (hstart : Position.check v = .good s.start)
    (hstop : Position.check w = .good s.stop) :
    check (.obj [("start", v), ("end", w)]) = .good s := by
  have hapart : [Field.plain "start", .plain "end"].Pairwise Field.Apart := by decide
  have hmembers : ([("start", v), ("end", w)] : Members) =
      Members.ofFields .byKey [(.plain "start", some v), (.plain "end", some w)] := rfl
  rw [hmembers]
  refine Checked.seq_good (Checked.map_good ?start) ?stop
  case start => exact Members.required_ofFields hapart 0 rfl hstart
  case stop => exact Members.required_ofFields hapart 1 rfl hstop

theorem check_toValue (s : Span) : check s.toValue = .good s :=
  check_pair s.start.check_toValue s.stop.check_toValue

theorem check_payload (s : Span) : check s.payload = .good s :=
  check_pair s.start.check_payload s.stop.check_payload

end Span

namespace Place

/-- A place by field. -/
def entries (p : Place) : List (Field × Option Value) :=
  [(.plain "source", some (.ofOption .str p.source)), (.plain "start", some p.start.toValue),
    (.plain "end", some p.stop.toValue), (kindField, some (.ofOption .str p.kind))]

theorem toValue_eq (naming : Naming) (p : Place) :
    p.toValue naming = .obj (Members.ofFields naming p.entries) := by
  cases naming <;> rfl

theorem check_toValue (naming : Naming) (p : Place) : check (p.toValue naming) = .good p := by
  have hapart : [Field.plain "source", .plain "start", .plain "end", kindField].Pairwise
      Field.Apart := by decide
  rw [toValue_eq]
  refine Checked.seq_good (Checked.seq_good (Checked.seq_good (Checked.map_good ?source) ?start)
    ?stop) ?kind
  case source =>
    exact Members.optional_ofFields hapart 0 rfl
      (Members.taken_ofOption .str fun _ _ => ⟨nofun, rfl⟩)
  case start => exact Members.required_ofFields hapart 1 rfl p.start.check_toValue
  case stop => exact Members.required_ofFields hapart 2 rfl p.stop.check_toValue
  case kind =>
    exact Members.optional_ofFields hapart 3 rfl
      (Members.taken_ofOption .str fun _ _ => ⟨nofun, rfl⟩)

end Place

/-! ## Messages, extras and entries -/

namespace Message

/-- A message by field. -/
def entries (naming : Naming) (m : Message) : List (Field × Option Value) :=
  [(.plain "path", some (.str m.path)), (.plain "descr", some (.str m.descr)),
    (kindField, some (.ofOption .str m.kind)), (.plain "line", some (.int m.line)),
    (.plain "endline", some (.int m.endLine)),
    (.plain "loc", some (.ofOption (Place.toValue naming) m.place))]

theorem toValue_eq (naming : Naming) (m : Message) :
    m.toValue naming = .obj (Members.ofFields naming (m.entries naming)) := by
  cases naming <;> rfl

theorem check_toValue (naming : Naming) (m : Message) : check (m.toValue naming) = .good m := by
  have hapart : [Field.plain "path", .plain "descr", kindField, .plain "line", .plain "endline",
      .plain "loc"].Pairwise Field.Apart := by decide
  rw [toValue_eq]
  refine Checked.seq_good (Checked.seq_good (Checked.seq_good (Checked.seq_good
    (Checked.seq_good (Checked.map_good ?path) ?descr) ?kind) ?line) ?endLine) ?place
  case path => exact Members.optional_ofFields hapart 0 rfl rfl
  case descr => exact Members.optional_ofFields hapart 1 rfl rfl
  case kind =>
    exact Members.optional_ofFields hapart 2 rfl
      (Members.taken_ofOption .str fun _ _ => ⟨nofun, rfl⟩)
  case line => exact Members.optional_ofFields hapart 3 rfl rfl
  case endLine => exact Members.optional_ofFields hapart 4 rfl rfl
  case place =>
    exact Members.optional_ofFields hapart 5 rfl
      (Members.taken_ofOption (Place.toValue naming) fun p _ => ⟨nofun, p.check_toValue naming⟩)

end Message

namespace Extra

theorem check_toValue (naming : Naming) (e : Extra) : check (e.toValue naming) = .good e := by
  have hmessages : checkList Message.check (.arr (e.messages.map (Message.toValue naming))) =
      .good e.messages := checkList_map fun m _ => m.check_toValue naming
  refine Checked.map_good ?_
  exact Members.optional_of_lookup?_eq_some rfl hmessages

end Extra

namespace Entry

/-- An entry by field. -/
def entries (naming : Naming) (e : Entry) : List (Field × Option Value) :=
  [(.plain "message", some (.arr ((e.primary :: e.others).map (Message.toValue naming)))),
    (.plain "level", some (.ofOption .str e.level)),
    (.plain "operation", some (.ofOption (Message.toValue naming) e.operation)),
    (.plain "extra",
      some (.ofOption (fun extras => .arr (extras.map (Extra.toValue naming))) e.extras))]

theorem toValue_eq (naming : Naming) (e : Entry) :
    e.toValue naming = .obj (Members.ofFields naming (e.entries naming)) := by
  cases naming <;> rfl

theorem check_toValue (naming : Naming) (e : Entry) : check (e.toValue naming) = .good e := by
  have hapart : [Field.plain "message", .plain "level", .plain "operation",
      .plain "extra"].Pairwise Field.Apart := by decide
  have hmessages : checkNonEmpty Message.check
      (.arr ((e.primary :: e.others).map (Message.toValue naming))) = .good (e.primary, e.others) :=
    checkNonEmpty_map fun m _ => m.check_toValue naming
  rw [toValue_eq]
  refine Checked.seq_good (Checked.seq_good
    (Checked.seq_good (f := Entry.mk e.primary e.others) ?messages ?level) ?operation) ?extras
  case messages =>
    have hgiven : (Members.ofFields naming (e.entries naming)).required (.plain "message")
        (checkNonEmpty Message.check) = .good (e.primary, e.others) :=
      Members.required_ofFields hapart 0 rfl hmessages
    exact Checked.map_good hgiven
  case level =>
    exact Members.optional_ofFields hapart 1 rfl
      (Members.taken_ofOption .str fun _ _ => ⟨nofun, rfl⟩)
  case operation =>
    exact Members.optional_ofFields hapart 2 rfl
      (Members.taken_ofOption (Message.toValue naming) fun m _ => ⟨nofun, m.check_toValue naming⟩)
  case extras =>
    exact Members.optional_ofFields hapart 3 rfl
      (Members.taken_ofOption (fun extras : List Extra => .arr (extras.map (Extra.toValue naming)))
        fun _ _ => ⟨nofun, checkList_map fun e _ => e.check_toValue naming⟩)

end Entry

/-! ## Reports and counts -/

theorem ExitCode.check_toValue (c : ExitCode) : ExitCode.check c.toValue = .good c := by
  cases c <;> rfl

theorem ExitNote.check_toValue (e : ExitNote) : ExitNote.check e.toValue = .good e := by
  have hapart : [Field.plain "msg", .plain "code"].Pairwise Field.Apart := by decide
  have hmembers : e.toValue = .obj (Members.ofFields .byKey [(.plain "msg", some (.str e.msg)),
      (.plain "code", some (.ofOption ExitCode.toValue e.code))]) := rfl
  rw [hmembers]
  refine Checked.seq_good (Checked.map_good ?msg) ?code
  case msg => exact Members.optional_ofFields hapart 0 rfl rfl
  case code =>
    exact Members.optional_ofFields hapart 1 rfl
      (Members.taken_ofOption ExitCode.toValue fun c _ => ⟨by cases c <;> nofun, c.check_toValue⟩)

namespace Report

/-- A report by field. -/
def fieldEntries (naming : Naming) (r : Report) : List (Field × Option Value) :=
  [(.plain "errors", some (.arr (r.entries.map (Entry.toValue naming)))),
    (versionField, some (.str r.version)),
    (.plain "exit", some (.ofOption ExitNote.toValue r.exit))]

theorem toValue_eq (naming : Naming) (r : Report) :
    r.toValue naming = .obj (Members.ofFields naming (r.fieldEntries naming)) := by
  cases naming <;> rfl

theorem check_toValue (naming : Naming) (r : Report) : check (r.toValue naming) = .good r := by
  have hapart : [Field.plain "errors", versionField, .plain "exit"].Pairwise Field.Apart := by
    decide
  have hentries : checkList Entry.check (.arr (r.entries.map (Entry.toValue naming))) =
      .good r.entries := checkList_map fun e _ => e.check_toValue naming
  rw [toValue_eq]
  refine Checked.seq_good (Checked.seq_good (Checked.map_good ?entries) ?version) ?exit
  case entries => exact Members.required_ofFields hapart 0 rfl hentries
  case version => exact Members.optional_ofFields hapart 1 rfl rfl
  case exit =>
    exact Members.optional_ofFields hapart 2 rfl
      (Members.taken_ofOption ExitNote.toValue fun e _ => ⟨nofun, e.check_toValue⟩)

end Report

theorem Coverage.check_toValue (naming : Naming) (c : Coverage) :
    Coverage.check (c.toValue naming) = .good c := by
  have hapart : [coveredField, uncoveredField].Pairwise Field.Apart := by decide
  have hmembers : c.toValue naming = .obj (Members.ofFields naming
      [(coveredField, some (.int c.covered)), (uncoveredField, some (.int c.uncovered))]) := rfl
  rw [hmembers]
  refine Checked.seq_good (Checked.map_good ?covered) ?uncovered
  case covered => exact Members.optional_ofFields hapart 0 rfl rfl
  case uncovered => exact Members.optional_ofFields hapart 1 rfl rfl

/-! ## Settings -/

namespace Settings

/-- Settings by field. -/
def entries (s : Settings) : List (Field × Option Value) :=
  [(flowBinField, some (.ofOption (fun p => .str p.text) s.flowBin)),
    (debugField, some (.bool s.debug)), (stopField, some (.bool s.stopOnExit)),
    (minCoverageField, some (.ofOption .float s.minCoverage))]

theorem toValue_eq (naming : Naming) (s : Settings) :
    s.toValue naming = .obj (Members.ofFields naming s.entries) := by
  cases naming <;> rfl

/-- Settings that a document may give: the checker is a path as it is read from a text,
    and the least coverage is a percentage. -/
structure Fit (s : Settings) : Prop where
  proper : ∀ p ∈ s.flowBin, p.Proper
  sound : s.Sound

theorem fit_of_check {v : Value} {s : Settings} (h : check v = .good s) : s.Fit := by
  obtain ⟨members, rfl, -⟩ := checkRecord_eq_good h
  refine ⟨fun p hp => ?_, sound_of_check h⟩
  have hflow := (gives_of_check h).1.flowBin
  rw [Option.mem_def.1 hp] at hflow
  obtain hnone | ⟨m, -, hcheck⟩ := Members.optional_eq_good hflow
  · cases hnone
  · obtain ⟨name, value⟩ := m
    cases value with
    | str t =>
      cases checkNullable_eq_good hcheck
      exact Path.proper_ofText t
    | _ => cases checkNullable_eq_good hcheck

theorem Fit.checkPath_text {s : Settings} {p : Path} (h : s.Fit) (hp : p ∈ s.flowBin) :
    checkPath (.str p.text) = .good p := by
  rw [checkPath, Path.ofText_text (h.proper p hp)]

theorem Fit.checkDoubleWithin_float {s : Settings} {x : Double} (h : s.Fit)
    (hx : x ∈ s.minCoverage) : checkDoubleWithin 0 100 (.float x) = .good x := by
  obtain ⟨q, hq, hlow, hhigh⟩ := h.sound x hx
  refine (within_eq_good_iff (by decide) (by decide)).2 ⟨rfl, q, hq, ?_, ?_⟩
  · exact_mod_cast hlow
  · exact_mod_cast hhigh

theorem check_toValue (naming : Naming) {s : Settings} (h : s.Fit) :
    check (s.toValue naming) = .good s := by
  have hapart : fields.Pairwise Field.Apart := by decide
  have hgives : Gives (Members.ofFields naming s.entries) s := {
    flowBin := Members.optional_ofFields hapart 0 rfl
      (Members.taken_ofOption (fun p => .str p.text) fun p hp => ⟨nofun, h.checkPath_text hp⟩)
    debug := Members.optional_ofFields hapart 1 rfl rfl
    stopOnExit := Members.optional_ofFields hapart 2 rfl rfl
    minCoverage := Members.optional_ofFields hapart 3 rfl
      (Members.taken_ofOption .float fun x hx => ⟨nofun, h.checkDoubleWithin_float hx⟩) }
  have hunknown : (Members.ofFields naming s.entries).unknown fields = [] :=
    Members.unknown_ofFields hapart
  rw [toValue_eq, check_of_gives hgives, if_pos hunknown]

end Settings

/-! ## Checking again -/

/-- Checking a document settles it.  What a check may make of documents are the `Fit`
    records; each is written, by the names of its fields or by their keys, as a document
    of which the check makes the same again. -/
structure Settles {α : Type} (check : Value → Checked α) (write : Naming → α → Value)
    (Fit : α → Prop) : Prop where
  fit_iff : ∀ a, Fit a ↔ ∃ v, check v = .good a
  again : ∀ v a, check v = .good a → ∀ naming, check (write naming a) = .good a

theorem Settles.of_check_write {α : Type} {check : Value → Checked α} {write : Naming → α → Value}
    {Fit : α → Prop} (hfit : ∀ v a, check v = .good a → Fit a)
    (hwrite : ∀ naming a, Fit a → check (write naming a) = .good a) : Settles check write Fit where
  fit_iff a := ⟨fun h => ⟨_, hwrite .byKey a h⟩, fun ⟨v, hv⟩ => hfit v a hv⟩
  again v a h naming := hwrite naming a (hfit v a h)

/-- A check that reads back whatever is written settles every document. -/
theorem Settles.of_forall {α : Type} {check : Value → Checked α} {write : Naming → α → Value}
    (hwrite : ∀ naming a, check (write naming a) = .good a) :
    Settles check write fun _ => True :=
  .of_check_write (fun _ _ _ => trivial) fun naming a _ => hwrite naming a

/-- **Checking settles every kind of record.**  Positions, spans, places, messages,
    extras, entries, notes, reports and counts are checked to be what they were, whatever
    they hold, and so are settings that a document gives. -/
theorem records_settle :
    Settles Position.check (fun _ => Position.toValue) (fun _ => True) ∧
    Settles Span.check (fun _ => Span.toValue) (fun _ => True) ∧
    Settles Place.check Place.toValue (fun _ => True) ∧
    Settles Message.check Message.toValue (fun _ => True) ∧
    Settles Extra.check Extra.toValue (fun _ => True) ∧
    Settles Entry.check Entry.toValue (fun _ => True) ∧
    Settles ExitNote.check (fun _ => ExitNote.toValue) (fun _ => True) ∧
    Settles Report.check Report.toValue (fun _ => True) ∧
    Settles Coverage.check Coverage.toValue (fun _ => True) ∧
    Settles Settings.check Settings.toValue Settings.Fit := by
  refine ⟨.of_forall fun _ => Position.check_toValue, .of_forall fun _ => Span.check_toValue,
    .of_forall Place.check_toValue, .of_forall Message.check_toValue,
    .of_forall Extra.check_toValue, .of_forall Entry.check_toValue,
    .of_forall fun _ => ExitNote.check_toValue, .of_forall Report.check_toValue,
    .of_forall Coverage.check_toValue, ?_⟩
  -- only settings can be made that no document gives
  refine .of_check_write (fun v s hs => ?_) fun naming s hs => ?_
  · exact Settings.fit_of_check hs
  · exact Settings.check_toValue naming hs

/-- A report with numbers as text, as a truth value and as a double, and with two members
    that go by the names of their fields. -/
def looseReport : Value :=
  .obj [("flow_version", .str "0.1"), ("errors", .arr [.obj [("message", .arr [.obj [
    ("line", .str "07"), ("loc", .obj [("kind", .null),
      ("start", .obj [("line", .bool true),
        ("column", .float (.finite false 4503599627370496 (-51)))]),
      ("end", .obj [("line", .int 1), ("column", .int 3), ("offset", .int 9)])])]])]])]

/-- What is made of it. -/
def strictReport : Report :=
  ⟨[⟨⟨[], [], some "Blame", 7, 0, some ⟨none, ⟨1, 2, none⟩, ⟨1, 3, some 9⟩, none⟩⟩, [], none, none,
    none⟩], "0.1", none⟩

/-- Settings with a path that takes detours and a word for a truth value. -/
def looseSettings : Value :=
  .obj [("flow_bin", .str "/a//./b/"), ("debug", .str "Yes"), ("min-coverage", .int 50)]

/-- What is made of them. -/
def strictSettings : Settings :=
  ⟨some ⟨.root, ["a", "b"]⟩, true, false, some (.ofInt 50)⟩

/-- The report and the settings are checked to be the same again under both namings. -/
theorem settle_loose :
    Report.check looseReport = .good strictReport ∧
      (∀ naming, Report.check (strictReport.toValue naming) = .good strictReport) ∧
      Settings.check looseSettings = .good strictSettings ∧
      ∀ naming, Settings.check (strictSettings.toValue naming) = .good strictSettings := by
  have hreport : Report.check looseReport = .good strictReport := rfl
  have hsettings : Settings.check looseSettings = .good strictSettings := rfl
  obtain ⟨-, -, -, -, -, -, -, hreports, -, hall⟩ := records_settle
  exact ⟨hreport, hreports.again _ _ hreport, hsettings, hall.again _ _ hsettings⟩

end FlowLens
