/-
  What goes wrong with settings.  Settings are loaded or there is a fault that says
  what is wrong with them, unless the settings file cannot be looked at, is no text,
  or holds an integer of too many digits.  Values are read at every depth here: the
  stack of a reader that gives up on values nested too deep is no part of this, nor are
  devices that fail.

  * `FileTree.Obstacle` and `FileTree.Hides`: what keeps a file from being looked at,
    and `FileTree.regular?_eq_error_iff`: nothing else does;
  * `SettingsFault.isConfiguration`, the faults that say what is wrong with settings;
  * `Settings.Mishap`, the other ones, with what is met when there are such;
  * `Settings.isConfiguration_or_mishap` and `Settings.Mishap.fromFile_eq`: there are no
    more faults, and a mishap always makes its own;
  * `Settings.Sound`, what holds of all settings that are loaded.
-/
import FlowLens.Proofs.DoubleValue
import FlowLens.Proofs.Encoding
import FlowLens.Proofs.Override
import FlowLens.Proofs.TomlDigits
import Mathlib

namespace FlowLens

/-! ## Looking at a file -/

namespace FileTree

variable {tree : FileTree} {cwd : Path} {path : Text} {r : Refusal}

/-- What keeps a path from being looked at, and how the operating system refuses it. -/
inductive Obstacle (tree : FileTree) (path : Text) : Refusal → Prop
  /-- The path is too long. -/
  | path : pathLimit ≤ byteLength path → Obstacle tree path .nameTooLong
  /-- A name in it is too long. -/
  | name {name : Text} : name ∈ piecesOf path → nameLimit < byteLength name →
      Obstacle tree path .nameTooLong
  /-- A name in a link is too long. -/
  | link {parts : List Text} {target name : Text} : tree.find? parts = some (.link target) →
      name ∈ piecesOf target → nameLimit < byteLength name → Obstacle tree path .nameTooLong
  /-- A directory may not be entered. -/
  | directory {parts : List Text} : tree.find? parts = some .locked → Obstacle tree path .denied

/-- A path cannot be looked at, and not because nothing is there. -/
structure Hides (tree : FileTree) (cwd : Path) (path : Text) (r : Refusal) : Prop where
  /-- It is refused. -/
  refused : tree.locate cwd path = .error r
  /-- Something stands in the way. -/
  obstacle : tree.Obstacle path r

theorem Obstacle.not_isAbsence (h : tree.Obstacle path r) : r.isAbsence = false := by
  cases h <;> rfl

/-- A path that leads nowhere is refused as absent, or there is an obstacle.  The names
    still to come are those of the path or of links. -/
theorem obstacle_of_follow {toEnd : Bool} {links : Nat} {base pieces : List Text}
    (hnames : ∀ name ∈ pieces, nameLimit < byteLength name → tree.Obstacle path .nameTooLong)
    (h : tree.follow toEnd links base pieces = .error r) :
    r.isAbsence = true ∨ tree.Obstacle path r := by
  fun_induction follow tree toEnd links base pieces with
  | case1 | case9 => cases h
  | case2 | case8 | case10 =>
    cases h
    exact .inl rfl
  | case4 _ _ _ _ _ _ hlocked =>
    cases h
    exact .inr (.directory hlocked)
  | case7 _ _ piece _ _ _ _ _ _ hlong =>
    cases h
    exact .inr (hnames piece List.mem_cons_self hlong)
  | case3 _ _ _ _ ih | case5 _ _ _ _ _ _ ih | case6 _ _ _ _ _ _ _ ih
  | case12 _ _ _ _ _ _ _ _ _ _ _ _ _ ih =>
    exact ih (fun name hname => hnames name (List.mem_cons_of_mem _ hname)) h
  | case11 _ _ rest _ _ _ _ _ _ target hlink _ _ _ ih =>
    refine ih (fun name hname hlong => ?_) h
    obtain hname | hname := List.mem_append.1 hname
    · exact .link hlink hname hlong
    · exact hnames name (List.mem_cons_of_mem _ hname) hlong

theorem obstacle_of_locate (h : tree.locate cwd path = .error r) :
    r.isAbsence = true ∨ tree.Obstacle path r := by
  unfold locate nodeAt at h
  cases hparts : tree.partsOf true cwd path with
  | error r' =>
    rw [hparts] at h
    cases h
    unfold partsOf at hparts
    split at hparts
    · cases hparts
      exact .inl rfl
    · split at hparts
      · next hlong =>
        cases hparts
        exact .inr (.path hlong)
      · exact obstacle_of_follow (fun name hname hlong => .name hname hlong) hparts
  | ok parts =>
    simp only [hparts, bind, Except.bind] at h
    split at h
    · cases h
    · cases h
      exact .inl rfl

/-- Every refusal that means more than absence has its obstacle. -/
theorem hides_iff :
    tree.Hides cwd path r ↔ tree.locate cwd path = .error r ∧ r.isAbsence = false := by
  constructor
  · intro h
    exact ⟨h.refused, h.obstacle.not_isAbsence⟩
  · rintro ⟨hlocate, hr⟩
    refine ⟨hlocate, (obstacle_of_locate hlocate).resolve_left ?_⟩
    simp [hr]

theorem regular?_eq_error_iff : tree.regular? cwd path = .error r ↔ tree.Hides cwd path r := by
  rw [hides_iff]
  unfold regular?
  cases hlocate : tree.locate cwd path with
  | ok node => cases node <;> simp
  | error r' =>
    by_cases habsent : r'.isAbsence = true
    · refine iff_of_false (by simp [habsent]) ?_
      rintro ⟨h, hr⟩
      cases h
      exact absurd habsent (by simp [hr])
    · simp only [if_neg habsent, Except.error.injEq]
      refine ⟨?_, And.left⟩
      rintro rfl
      exact ⟨rfl, by simpa using habsent⟩

theorem regular?_eq_some_iff {bytes : List UInt8} {executable : Bool} :
    tree.regular? cwd path = .ok (some (some bytes, executable)) ↔
      tree.locate cwd path = .ok (.file bytes executable) := by
  unfold regular?
  cases hlocate : tree.locate cwd path with
  | ok node => cases node <;> simp
  | error r => by_cases habsent : r.isAbsence = true <;> simp [habsent]

end FileTree

/-! ## Faults -/

/-- Whether a fault says what is wrong with the settings. -/
def SettingsFault.isConfiguration : SettingsFault → Bool
  | unreadable _ => true
  | notTable _ => true
  | invalid _ => true
  | _ => false

namespace Settings

/-- The settings file of a project. -/
def fileOf (root : Path) : Path :=
  root.child "pyproject.toml"

/-- What may be met at the settings file of a project, and the fault that it makes,
    which says nothing of settings. -/
inductive Mishap (tree : FileTree) (cwd root : Path) : SettingsFault → Prop
  /-- The file cannot be looked at. -/
  | hidden {r} : tree.Hides cwd (fileOf root).text r →
      Mishap tree cwd root (.refused (r.about (fileOf root).text))
  /-- The bytes of the file are those of no text. -/
  | bytes {bytes executable} :
      tree.locate cwd (fileOf root).text = .ok (.file bytes executable) → ¬ Utf8.IsText bytes →
      Mishap tree cwd root .notText
  /-- The text of the file is refused for its digits. -/
  | digits {chars executable cause} :
      tree.locate cwd (fileOf root).text = .ok (.file (Utf8.bytesOf chars) executable) →
      Toml.read (chars.map .char) = .error (.tooLong cause) →
      Mishap tree cwd root (.tooLong cause)

variable {tree : FileTree} {cwd root file : Path} {env : Environment} {fault : SettingsFault}

theorem documentOf_of_not_isText {bytes : List UInt8} (h : ¬ Utf8.IsText bytes) :
    documentOf file bytes = .error .notText := by
  rw [documentOf, Utf8.decode?_eq_none_iff.2 h]

theorem documentOf_of_tooLong {chars : List Char} {cause : TooManyDigits}
    (h : Toml.read (chars.map .char) = .error (.tooLong cause)) :
    documentOf file (Utf8.bytesOf chars) = .error (.tooLong cause) := by
  simp only [documentOf, Utf8.decode?_eq_some_iff.2 ⟨chars, rfl, rfl⟩, h]

/-- The bytes of a settings file make a fault that is none of settings if they are
    those of no text or if the text has too many digits. -/
theorem documentOf_eq_error {bytes : List UInt8} (h : documentOf file bytes = .error fault) :
    fault.isConfiguration = true ∨ (fault = .notText ∧ ¬ Utf8.IsText bytes) ∨
      ∃ chars cause, bytes = Utf8.bytesOf chars ∧
        Toml.read (chars.map .char) = .error (.tooLong cause) ∧ fault = .tooLong cause := by
  unfold documentOf at h
  split at h
  · next hbytes =>
    cases h
    exact .inr (.inl ⟨rfl, Utf8.decode?_eq_none_iff.1 hbytes⟩)
  · next hbytes =>
    obtain ⟨chars, rfl, rfl⟩ := Utf8.decode?_eq_some_iff.1 hbytes
    split at h
    · cases h
    · cases h
      exact .inl rfl
    · next cause hread =>
      cases h
      exact .inr (.inr ⟨chars, cause, rfl, hread, rfl⟩)

theorem isConfiguration_of_sectionOf {document : Members}
    (h : sectionOf file document = .error fault) : fault.isConfiguration = true := by
  unfold sectionOf at h
  split at h
  · split at h
    · cases h
    · cases h
    · cases h
      rfl
  · cases h

theorem Mishap.not_isConfiguration (h : Mishap tree cwd root fault) :
    fault.isConfiguration = false := by
  cases h <;> rfl

theorem child_eq_fileOf (root : Path) : root.child "pyproject.toml" = fileOf root :=
  rfl

theorem fromFile_of_locate {bytes : List UInt8} {executable : Bool}
    (h : tree.locate cwd (fileOf root).text = .ok (.file bytes executable)) :
    fromFile tree cwd root = documentOf (fileOf root) bytes >>= sectionOf (fileOf root) := by
  have hfile := FileTree.regular?_eq_some_iff.2 h
  simp only [fromFile, child_eq_fileOf, hfile]

theorem Mishap.fromFile_eq (h : Mishap tree cwd root fault) :
    fromFile tree cwd root = .error fault := by
  cases h with
  | hidden hhides =>
    have hrefused := FileTree.regular?_eq_error_iff.2 hhides
    simp only [fromFile, child_eq_fileOf, hrefused]
  | bytes hlocate hbytes =>
    rw [fromFile_of_locate hlocate, documentOf_of_not_isText hbytes]
    rfl
  | digits hlocate hread =>
    rw [fromFile_of_locate hlocate, documentOf_of_tooLong hread]
    rfl

/-- A fault of a settings file is one of settings, or there is a mishap. -/
theorem isConfiguration_or_mishap (h : fromFile tree cwd root = .error fault) :
    fault.isConfiguration = true ∨ Mishap tree cwd root fault := by
  cases hfile : tree.regular? cwd (fileOf root).text with
  | error r =>
    have hmishap := Mishap.hidden (FileTree.regular?_eq_error_iff.1 hfile)
    rw [hmishap.fromFile_eq] at h
    cases h
    exact .inr hmishap
  | ok found =>
    cases found with
    | none =>
      simp only [fromFile, child_eq_fileOf, hfile] at h
      cases h
    | some file =>
      obtain ⟨_ | bytes, executable⟩ := file
      · simp only [fromFile, child_eq_fileOf, hfile] at h
        cases h
        exact .inl rfl
      · have hlocate := FileTree.regular?_eq_some_iff.1 hfile
        rw [fromFile_of_locate hlocate] at h
        cases hdocument : documentOf (fileOf root) bytes with
        | ok document =>
          rw [hdocument] at h
          exact .inl (isConfiguration_of_sectionOf h)
        | error fault' =>
          rw [hdocument] at h
          cases h
          obtain hfault | ⟨rfl, hbytes⟩ | ⟨chars, cause, hchars, hread, rfl⟩ :=
            documentOf_eq_error hdocument
          · exact .inl hfault
          · exact .inr (.bytes hlocate hbytes)
          · exact .inr (.digits (hchars ▸ hlocate) hread)

/-! ## Loading -/

theorem load_of_table_error {root : Option Path} (h : table tree cwd root = .error fault) :
    load tree cwd env root = .error fault := by
  cases root with
  | none => cases h
  | some root =>
    change fromFile tree cwd root = .error fault at h
    simp only [load, h, bind, Except.bind]

/-- The least coverage of settings, if they have one, is a percentage. -/
def Sound (s : Settings) : Prop :=
  ∀ x, s.minCoverage = some x → ∃ q, x.value? = some q ∧ 0 ≤ q ∧ q ≤ 100

theorem sound_of_check {members : Members} {s : Settings}
    (h : check (.obj members) = .good s) : s.Sound := by
  intro x hx
  have hmin := (gives_of_check h).1.minCoverage
  rw [hx] at hmin
  obtain hnone | ⟨m, -, hcheck⟩ := Members.optional_eq_good hmin
  · cases hnone
  · have hbounded := checkNullable_eq_good hcheck
    unfold checkDoubleWithin at hbounded
    split at hbounded
    · next y hy =>
      obtain ⟨rfl, q, hq, hlow, hhigh⟩ :=
        (within_eq_good_iff (by decide) (by decide)).1 hbounded
      exact ⟨q, hq, by exact_mod_cast hlow, by exact_mod_cast hhigh⟩
    · cases hbounded

/-- What loading comes to, one way or the other. -/
theorem load_cases (tree : FileTree) (cwd : Path) (env : Environment) (root : Option Path) :
    (∃ s, load tree cwd env root = .ok s ∧ s.Sound) ∨
      (∃ fault, load tree cwd env root = .error fault ∧ fault.isConfiguration = true) ∨
      ∃ p fault, root = some p ∧ Mishap tree cwd p fault := by
  cases htable : table tree cwd root with
  | ok members =>
    cases hcheck : check (.obj (overlay env members)) with
    | good s => exact .inl ⟨s, by rw [load_of_table htable, hcheck], sound_of_check hcheck⟩
    | bad problems =>
      exact .inr (.inl ⟨.invalid problems, by rw [load_of_table htable, hcheck], rfl⟩)
  | error fault =>
    cases root with
    | none => cases htable
    | some p =>
      obtain hfault | hmishap := isConfiguration_or_mishap htable
      · exact .inr (.inl ⟨fault, load_of_table_error htable, hfault⟩)
      · exact .inr (.inr ⟨p, fault, rfl, hmishap⟩)

/-- **What goes wrong when settings are loaded.**  There are settings, with a least
    coverage from 0 to 100 if they have one, or a fault that says what is wrong with
    them, exactly unless the settings file meets with a mishap: it cannot be looked at,
    since a name is too long or a directory may not be entered, or it is no text, or has
    too many digits.  Then loading ends with the fault of that, in every environment; and
    if it is too many digits, such an integer stands in the file.  The stack that nested
    values take is not counted. -/
theorem load_sound_or_fault_iff (tree : FileTree) (cwd : Path) (env : Environment)
    (root : Option Path) :
    ((∃ s, load tree cwd env root = .ok s ∧ s.Sound) ∨
        (∃ fault, load tree cwd env root = .error fault ∧ fault.isConfiguration = true) ↔
      ¬ ∃ p fault, root = some p ∧ Mishap tree cwd p fault) ∧
    (∀ p fault, root = some p → Mishap tree cwd p fault →
      load tree cwd env root = .error fault ∧ fault.isConfiguration = false) ∧
    ∀ p cause, root = some p → Mishap tree cwd p (.tooLong cause) →
      ∃ chars executable,
        tree.locate cwd (fileOf p).text = .ok (.file (Utf8.bytesOf chars) executable) ∧
        Toml.LongInteger cause (chars.map .char) := by
  have hfails : ∀ p fault, root = some p → Mishap tree cwd p fault →
      load tree cwd env root = .error fault := by
    rintro p fault rfl hmishap
    exact load_of_table_error hmishap.fromFile_eq
  refine ⟨⟨?_, fun hno => ?_⟩, ?_, ?_⟩
  · rintro hends ⟨p, fault, hroot, hmishap⟩
    have hload := hfails p fault hroot hmishap
    obtain ⟨s, hs, -⟩ | ⟨fault', hfault', hsaid⟩ := hends
    · cases hs.symm.trans hload
    · cases hfault'.symm.trans hload
      exact Bool.false_ne_true (hmishap.not_isConfiguration.symm.trans hsaid)
  · obtain hs | hfault | hmishap := load_cases tree cwd env root
    · exact .inl hs
    · exact .inr hfault
    · exact absurd hmishap hno
  · intro p fault hroot hmishap
    exact ⟨hfails p fault hroot hmishap, hmishap.not_isConfiguration⟩
  · rintro p cause - (_ | _ | ⟨hlocate, hread⟩)
    exact ⟨_, _, hlocate, Toml.longInteger_of_read hread⟩

/-- A project whose settings file has a single byte, which starts no character. -/
def strayTree : FileTree :=
  ⟨[([("p" : Text)], .dir), ([("p" : Text), "pyproject.toml"], .file [0xFF] false)]⟩

/-- A project whose directory may not be entered. -/
def lockedTree : FileTree :=
  ⟨[([("p" : Text)], .locked)]⟩

theorem hides_lockedTree :
    lockedTree.Hides (.ofText "/") (fileOf (.ofText "/p")).text .denied := by
  have hrefused : lockedTree.locate (.ofText "/") (fileOf (.ofText "/p")).text =
      .error .denied := by cbv
  exact FileTree.hides_iff.2 ⟨hrefused, rfl⟩

/-- The byte is a mishap, and no settings are loaded there, nor is said what is wrong
    with them.  The directory is one too. -/
theorem load_strayTree :
    Mishap strayTree (.ofText "/") (.ofText "/p") .notText ∧
      load strayTree (.ofText "/") [] (some (.ofText "/p")) = .error .notText ∧
      ¬ ((∃ s, load strayTree (.ofText "/") [] (some (.ofText "/p")) = .ok s ∧ s.Sound) ∨
        ∃ fault, load strayTree (.ofText "/") [] (some (.ofText "/p")) = .error fault ∧
          fault.isConfiguration = true) ∧
      load lockedTree (.ofText "/") [] (some (.ofText "/p")) =
        .error (.refused (Refusal.denied.about "/p/pyproject.toml")) := by
  have hlocate : strayTree.locate (.ofText "/") (fileOf (.ofText "/p")).text =
      .ok (.file [0xFF] false) := by cbv
  have hbytes : ¬ Utf8.IsText [0xFF] := Utf8.decode?_eq_none_iff.1 (by decide)
  have hmishap : Mishap strayTree (.ofText "/") (.ofText "/p") .notText := .bytes hlocate hbytes
  obtain ⟨hiff, hfails, -⟩ :=
    load_sound_or_fault_iff strayTree (.ofText "/") [] (some (.ofText "/p"))
  obtain ⟨-, hlocked, -⟩ :=
    load_sound_or_fault_iff lockedTree (.ofText "/") [] (some (.ofText "/p"))
  have htext : (fileOf (.ofText "/p")).text = "/p/pyproject.toml" := by decide
  exact ⟨hmishap, (hfails _ _ rfl hmishap).1, fun h => hiff.1 h ⟨_, _, rfl, hmishap⟩,
    htext ▸ (hlocked _ _ rfl (.hidden hides_lockedTree)).1⟩

end Settings

end FlowLens
