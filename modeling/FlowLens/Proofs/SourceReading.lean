/-
  Reading the source.  A command line that has its settings and its checker passes the
  text of its file on, or says why there is none.

  * `CommandLine.Mishap`, what may be met at a file that is neither;
  * `CommandLine.readSource_cases`: there is nothing else.
-/
import FlowLens.Proofs.Announcements
import FlowLens.Proofs.CommandCalls
import FlowLens.Proofs.Encoding
import FlowLens.Proofs.Override
import Mathlib

namespace FlowLens

namespace CommandLine

variable {host : Host} {file target : Path} {stdin : Text} {c : Common}

/-! ## States of a file -/

/-- What is said about a file that is not read. -/
def unreadText (target : Path) (refusal : Refusal) : Text :=
  "Unable to read " ++ target.text ++ ": " ++ (refusal.about target.text).message

/-- A file has a text. -/
def HasText (host : Host) (file target : Path) (t : Text) : Prop :=
  host.realPath file = .ok target ∧ ∃ chars,
    host.tree.read host.cwd target.text = .ok (Utf8.bytesOf chars) ∧
      t = Text.unixLines (chars.map .char)

/-- A file cannot be read, and that can be said. -/
def SaidUnread (host : Host) (file : Path) (said : Text) : Prop :=
  ∃ target refusal, host.realPath file = .ok target ∧
    host.tree.read host.cwd target.text = .error refusal ∧
    complain host.env (unreadText target refusal) = .ok said

/-- What may be met at a file that is neither, and the fault that it makes. -/
inductive Mishap (host : Host) (file : Path) : Fault → Prop
  /-- The links of its path cannot be worked out. -/
  | path {cause} : host.realPath file = .error cause → Mishap host file (.locate (.impasse cause))
  /-- Its bytes are those of no text. -/
  | bytes {target bytes} : host.realPath file = .ok target →
      host.tree.read host.cwd target.text = .ok bytes → ¬ Utf8.IsText bytes →
      Mishap host file .notText
  /-- It cannot be read, and there is no console to say so. -/
  | console {target refusal fault} : host.realPath file = .ok target →
      host.tree.read host.cwd target.text = .error refusal →
      host.env.console false = .error fault → Mishap host file (.announce (.console fault))

/-- The file of a command line and its text. -/
def readSource (host : Host) (file : Path) : Except Early (Path × Text) := do
  let target ← follow host file
  let source ← readFile host target
  return (target, source)

theorem readSource_of_hasText {t : Text} (h : HasText host file target t) :
    readSource host file = .ok (target, t) := by
  obtain ⟨htarget, chars, hread, rfl⟩ := h
  have hdecode := Utf8.decode?_eq_some_iff.2 ⟨chars, rfl, rfl⟩
  simp only [readSource, follow, htarget, readFile, hread, hdecode, bind, Except.bind, pure,
    Except.pure]

theorem readSource_of_saidUnread {said : Text} (h : SaidUnread host file said) :
    readSource host file = .error (.exit 2 said) := by
  obtain ⟨target, refusal, htarget, hread, hsaid⟩ := h
  rw [unreadText] at hsaid
  simp only [readSource, follow, htarget, readFile, hread, hsaid, bind, Except.bind,
    Early.announced]

theorem complain_of_fault {fault : IntegerFault} {msg : Text}
    (h : host.env.console false = .error fault) :
    complain host.env msg = .error (.announce (.console fault)) := by
  rw [complain, say, announce_of_fault h]
  rfl

theorem Mishap.readSource_eq {fault : Fault} (h : Mishap host file fault) :
    readSource host file = .error (.broken fault) := by
  cases h with
  | path hcause => simp only [readSource, follow, hcause, bind, Except.bind]
  | bytes htarget hread hbytes =>
    have hdecode := Utf8.decode?_eq_none_iff.2 hbytes
    simp only [readSource, follow, htarget, readFile, hread, hdecode, bind, Except.bind]
  | console htarget hread hconsole =>
    simp only [readSource, follow, htarget, readFile, hread, complain_of_fault hconsole, bind,
      Except.bind, Early.announced]

theorem HasText.not_mishap {t : Text} (h : HasText host file target t) (fault : Fault) :
    ¬ Mishap host file fault := by
  intro hmishap
  cases (readSource_of_hasText h).symm.trans hmishap.readSource_eq

theorem SaidUnread.not_mishap {said : Text} (h : SaidUnread host file said) (fault : Fault) :
    ¬ Mishap host file fault := by
  intro hmishap
  cases (readSource_of_saidUnread h).symm.trans hmishap.readSource_eq

theorem SaidUnread.not_hasText {said t : Text} (h : SaidUnread host file said) :
    ¬ HasText host file target t := by
  intro htext
  cases (readSource_of_saidUnread h).symm.trans (readSource_of_hasText htext)

theorem exists_saidUnread {refusal : Refusal} {console : Console}
    (htarget : host.realPath file = .ok target)
    (hread : host.tree.read host.cwd target.text = .error refusal)
    (hconsole : host.env.console false = .ok console) : ∃ said, SaidUnread host file said := by
  have hsaid : announce host.env .pipe .fail false none (unreadText target refusal) = .ok _ :=
    announce_pipe hconsole
  exact ⟨_, target, refusal, htarget, hread, congrArg (Except.mapError Fault.announce) hsaid⟩

/-- Whatever a file is, it has a text, or it is said that it cannot be read, or there is a
    mishap. -/
theorem readSource_cases (host : Host) (file : Path) :
    (∃ target t, HasText host file target t) ∨ (∃ said, SaidUnread host file said) ∨
      ∃ fault, Mishap host file fault := by
  cases htarget : host.realPath file with
  | error cause => exact .inr (.inr ⟨_, .path htarget⟩)
  | ok target =>
    cases hread : host.tree.read host.cwd target.text with
    | ok bytes =>
      by_cases hbytes : Utf8.IsText bytes
      · obtain ⟨chars, rfl⟩ := hbytes
        exact .inl ⟨target, _, htarget, chars, hread, rfl⟩
      · exact .inr (.inr ⟨_, .bytes htarget hread hbytes⟩)
    | error refusal =>
      cases hconsole : host.env.console false with
      | error fault => exact .inr (.inr ⟨_, .console htarget hread hconsole⟩)
      | ok console => exact .inr (.inl (exists_saidUnread htarget hread hconsole))

/-! ## Commands -/

/-- What a command line has before it reads its source. -/
structure Equipment where
  /-- The root of the project. -/
  root : Path
  /-- The settings. -/
  settings : Settings
  /-- The checker. -/
  binary : Text

/-- All that is needed, with a source. -/
def Equipment.setup (q : Equipment) (target : Path) (source : Text) : Setup :=
  ⟨q.root, q.settings, ⟨q.binary, q.settings.debug⟩, target, source⟩

/-- A command line comes to read its source: settings load, and there is a checker. -/
structure Equips (host : Host) (c : Common) (q : Equipment) : Prop where
  root : host.realPath (c.root.getD host.cwd) = .ok q.root
  settings : Settings.load host.tree host.cwd host.env (some q.root) = .ok q.settings
  binary : host.checkerFor q.settings (some q.root) = .ok q.binary

/-- What a command does with all that is needed: the checker is run, and what comes of it
    is written out. -/
def proceed (runner : Runner) (host : Host) (x : Exchange) : Request → Setup → Ended
  | .check c line column, p =>
    finish p.checker (fun outcome => writeLint host.env c (.ofOutcome p.target.text outcome))
      (p.checker.collectAt runner host.cwd (p.request c) (.ofInts line column) ⟨x, .empty⟩)
  | .coverage c minimum, p =>
    finish p.checker
      (fun outcome => writeCoverage host.env c (.ofOutcome p.target.text outcome)
        ((minimum.or p.settings.minCoverage).map .real))
      (p.checker.coverage runner (p.request c) ⟨x, .empty⟩)
  | .help, _ => endWithout x (onConsole host.env (.exit 0))

section

variable {runner : Runner} {x : Exchange} {args : List Text} {request : Request}
  {q : Equipment}

theorem setup_eq (hequips : Equips host c q) (hfile : c.fromStdin = false) :
    setup host stdin c = (readSource host c.file).map fun found => q.setup found.1 found.2 := by
  unfold setup readSource
  rw [follow, hequips.root]
  dsimp only [bind, Except.bind]
  rw [hequips.settings]
  dsimp only
  rw [hequips.binary]
  dsimp only
  rw [hfile]
  cases follow host c.file with
  | error early => rfl
  | ok target =>
    dsimp only
    cases readFile host target with
    | error early => rfl
    | ok source => rfl

theorem run_of_setup {p : Setup} (hparse : parse args = .ok request)
    (hcommon : request.common? = some c) (hsetup : setup host stdin c = .ok p) :
    run runner host stdin x args = proceed runner host x request p := by
  cases request with
  | check c' line column =>
    cases hcommon
    simp only [run, hparse, runCheck, hsetup, proceed]
  | coverage c' minimum =>
    cases hcommon
    simp only [run, hparse, runCoverage, hsetup, proceed]
  | help => cases hcommon

theorem run_of_early {early : Early} (hparse : parse args = .ok request)
    (hcommon : request.common? = some c) (hsetup : setup host stdin c = .error early) :
    run runner host stdin x args = endEarly x early := by
  cases request with
  | check c' line column =>
    cases hcommon
    simp only [run, hparse, runCheck, hsetup]
  | coverage c' minimum =>
    cases hcommon
    simp only [run, hparse, runCoverage, hsetup]
  | help => cases hcommon

/-- **A source is passed on, or its absence ends the command.**  Where settings load and a
    checker is found, a check or a coverage of a file goes on with the text of the file, or
    it says that the file cannot be read and ends with status 2; then no call is made, now
    or at exit, and no root is written down.  This fails exactly if the links of its path
    cannot be worked out, its bytes are those of no text, or it cannot be read and there is
    no console to say so; then the command ends with that fault, and still makes no call. -/
theorem source_passed_on_or_refused (hparse : parse args = .ok request)
    (hcommon : request.common? = some c) (hfile : c.fromStdin = false)
    (hequips : Equips host c q) (runner : Runner) (stdin : Text) (x : Exchange) :
    ((∃ target t, HasText host c.file target t ∧
        run runner host stdin x args = proceed runner host x request (q.setup target t)) ∨
      (∃ said, SaidUnread host c.file said ∧
        run runner host stdin x args = ⟨[], said, .exit 2, none, ⟨x, .empty⟩⟩) ↔
      ∀ fault, ¬ Mishap host c.file fault) ∧
    (∀ fault, Mishap host c.file fault →
      run runner host stdin x args = ⟨[], [], .broken fault, none, ⟨x, .empty⟩⟩) ∧
    ((∀ target t, ¬ HasText host c.file target t) →
      (run runner host stdin x args).atExit runner = (.ok (), ⟨x, .empty⟩)) := by
  have hsetup : setup host stdin c = _ := setup_eq hequips hfile
  have hpassed : ∀ target t, HasText host c.file target t →
      run runner host stdin x args = proceed runner host x request (q.setup target t) := by
    intro target t htext
    rw [readSource_of_hasText htext] at hsetup
    exact run_of_setup hparse hcommon hsetup
  have hunread : ∀ said, SaidUnread host c.file said →
      run runner host stdin x args = ⟨[], said, .exit 2, none, ⟨x, .empty⟩⟩ := by
    intro said hsaid
    rw [readSource_of_saidUnread hsaid] at hsetup
    exact run_of_early hparse hcommon hsetup
  have hbroken : ∀ fault, Mishap host c.file fault →
      run runner host stdin x args = ⟨[], [], .broken fault, none, ⟨x, .empty⟩⟩ := by
    intro fault hmishap
    rw [hmishap.readSource_eq] at hsetup
    exact run_of_early hparse hcommon hsetup
  refine ⟨⟨?_, ?_⟩, hbroken, ?_⟩
  · rintro (⟨target, t, htext, -⟩ | ⟨said, hsaid, -⟩)
    · exact htext.not_mishap
    · exact hsaid.not_mishap
  · intro hclear
    obtain ⟨target, t, htext⟩ | ⟨said, hsaid⟩ | ⟨fault, hmishap⟩ := readSource_cases host c.file
    · exact .inl ⟨target, t, htext, hpassed target t htext⟩
    · exact .inr ⟨said, hsaid, hunread said hsaid⟩
    · exact absurd hmishap (hclear fault)
  · intro hnone
    obtain ⟨target, t, htext⟩ | ⟨said, hsaid⟩ | ⟨fault, hmishap⟩ := readSource_cases host c.file
    · exact absurd htext (hnone target t)
    · rw [hunread said hsaid]
      rfl
    · rw [hbroken fault hmishap]
      rfl

end

/-- A machine with one file, whose environment sets the checker. -/
def fileHost (node : Node) : Host :=
  ⟨⟨[(["x.js"], node)]⟩, .ofText "/", sampleEnv "/a" false⟩

/-- What is asked for: the file. -/
def fileOptions : Common :=
  ⟨.ofText "x.js", none, none, false, false, true⟩

/-- What is found before the file is read. -/
def fileEquipment : Equipment :=
  ⟨.ofText "/", ⟨some (.ofText "/a"), false, false, none⟩, "/a"⟩

theorem equips_fileHost (node : Node) : Equips (fileHost node) fileOptions fileEquipment where
  root := by cbv
  settings := by
    have htable : Settings.table (fileHost node).tree (.ofText "/") (some (.ofText "/")) =
        .ok [] := by cbv
    have hoverlay : Settings.overlay (sampleEnv "/a" false) [] =
        Members.put "flow-bin" (.str "/a") [] := rfl
    have hcheck : Settings.check (.obj (Members.put "flow-bin" (.str "/a") [])) =
        .good fileEquipment.settings := by cbv
    exact (Settings.load_of_table htable).trans (by rw [fileHost, hoverlay, hcheck])
  binary := rfl

theorem parse_fileArgs : parse ["check", "x.js"] = .ok (.check fileOptions 0 0) := by
  cbv

theorem mishap_fileHost : Mishap (fileHost (.file [255] false)) (.ofText "x.js") .notText := by
  have hevaluates : (fileHost (.file [255] false)).realPath (.ofText "x.js") =
        .ok (.ofText "/x.js") ∧
      (fileHost (.file [255] false)).tree.read (.ofText "/") (Path.ofText "/x.js").text =
        .ok [255] ∧
      Utf8.decode? [255] = none := by
    refine ⟨?_, ?_, ?_⟩ <;> cbv
  obtain ⟨htarget, hread, hdecode⟩ := hevaluates
  exact .bytes htarget hread (Utf8.decode?_eq_none_iff.1 hdecode)

theorem saidUnread_fileHost : ∃ said, SaidUnread (fileHost (.sealed [])) (.ofText "x.js") said := by
  have hevaluates : (fileHost (.sealed [])).realPath (.ofText "x.js") = .ok (.ofText "/x.js") ∧
      (fileHost (.sealed [])).tree.read (.ofText "/") (Path.ofText "/x.js").text =
        .error .denied := by
    constructor <;> cbv
  have hconsole : (sampleEnv "/a" false).console false = .ok ⟨80, none⟩ := rfl
  exact exists_saidUnread hevaluates.1 hevaluates.2 hconsole

/-- A byte that is in no text breaks the command; a file that may not be opened ends it. -/
theorem source_fileHost :
    run (.located (fileHost (.file [255] false))) (fileHost (.file [255] false)) ""
        (.start ⟨.prints none 0, []⟩) ["check", "x.js"] =
      ⟨[], [], .broken .notText, none, ⟨.start ⟨.prints none 0, []⟩, .empty⟩⟩ ∧
    (run (.located (fileHost (.sealed []))) (fileHost (.sealed [])) ""
        (.start ⟨.prints none 0, []⟩) ["check", "x.js"]).conclusion = .exit 2 := by
  constructor
  · exact (source_passed_on_or_refused parse_fileArgs rfl rfl (equips_fileHost _) _ _ _).2.1
      .notText mishap_fileHost
  · obtain ⟨said, hsaid⟩ := saidUnread_fileHost
    obtain ⟨target, t, htext, _⟩ | ⟨said', _, hended⟩ :=
      (source_passed_on_or_refused parse_fileArgs rfl rfl (equips_fileHost (.sealed []))
        (.located (fileHost (.sealed []))) "" (.start ⟨.prints none 0, []⟩)).1.2 hsaid.not_mishap
    · exact absurd htext hsaid.not_hasText
    · rw [hended]

end CommandLine

end FlowLens
