/-
  The program that a command is run with, and whether its path is absolute.

  * `Host.FirstOnPath` and `Host.Finds`: what a name finds on the search path;
  * `Host.Strays`: a name that is looked for below the current directory, with a slash or
    in a directory of the search path that is itself relative;
  * `Host.isAbsolute_iff_not_strays`: the path that is found is absolute but for such names.
-/
import FlowLens.Proofs.Spelling
import FlowLens.System.Host
import Mathlib

namespace FlowLens

/-! ## Absolute paths -/

namespace Path

variable {t : Text}

theorem anchorOf_eq_here_iff : anchorOf t = .here ↔ t.head? ≠ some (.char '/') := by
  cases t with
  | nil => simp [anchorOf]
  | cons c t =>
    by_cases hc : c = .char '/'
    · subst hc
      refine iff_of_false ?_ (by simp)
      simp only [anchorOf, List.takeWhile_cons, isSlash, decide_true, if_true, List.length_cons]
      split <;> simp_all
    · refine iff_of_true ?_ (by simpa using hc)
      simp [anchorOf, isSlash, hc]

theorem isAbsolute_ofText_iff : (ofText t).isAbsolute = true ↔ t.head? = some (.char '/') := by
  simp [isAbsolute, ofText, anchorOf_eq_here_iff]

theorem isAbsolute_ofText_text (h : (ofText t).isAbsolute = true) :
    (ofText (ofText t).text).isAbsolute = true := by
  rwa [ofText_text (proper_ofText t)]

theorem any_isSlash_iff : t.any isSlash = true ↔ .char '/' ∈ t := by
  simp [isSlash]

end Path

/-! ## The search -/

namespace Host

variable {host : Host} {name found directory directory' : Text} {rest : List Text}

/-- The first directory of the search path that has a program. -/
def FirstOnPath (host : Host) (name directory : Text) : Prop :=
  host.tree.isProgram host.cwd (inDirectory directory name) = true ∧
    ∃ front behind, host.searchPath = front ++ directory :: behind ∧
      ∀ d ∈ front, host.tree.isProgram host.cwd (inDirectory d name) = false

/-- What a name finds. -/
inductive Finds (host : Host) (name : Text) : Text → Prop
  /-- A name with a slash finds itself, if that is a program. -/
  | named : .char '/' ∈ name → host.tree.isProgram host.cwd name = true → Finds host name name
  /-- Any other name finds the program in the first directory that has it. -/
  | listed {directory : Text} : .char '/' ∉ name → host.FirstOnPath name directory →
      Finds host name (inDirectory directory name)

/-- A name that finds what is below the current directory. -/
inductive Strays (host : Host) (name : Text) : Prop
  /-- It has a slash, but not in front. -/
  | named : .char '/' ∈ name → (Path.ofText name).isAbsolute = false → Strays host name
  /-- The first directory of the search path that has it is relative. -/
  | listed {directory : Text} : .char '/' ∉ name → host.FirstOnPath name directory →
      (Path.ofText directory).isAbsolute = false → Strays host name

theorem firstOnPath_iff : host.FirstOnPath name directory ↔
    host.searchPath.find? (fun d => host.tree.isProgram host.cwd (inDirectory d name)) =
      some directory := by
  simp [FirstOnPath, List.find?_eq_some_iff_append]

theorem FirstOnPath.unique (h : host.FirstOnPath name directory)
    (h' : host.FirstOnPath name directory') : directory = directory' := by
  rw [firstOnPath_iff] at h h'
  exact Option.some.inj (h.symm.trans h')

theorem programFor?_eq_some_iff : host.programFor? name = some found ↔ host.Finds name found := by
  unfold programFor?
  split_ifs with hslash hprogram
  · rw [Path.any_isSlash_iff] at hslash
    constructor
    · intro h
      cases h
      exact .named hslash hprogram
    · intro h
      cases h with
      | named => rfl
      | listed hnone => exact absurd hslash hnone
  · rw [Path.any_isSlash_iff] at hslash
    refine iff_of_false (by simp) fun h => ?_
    cases h with
    | named _ hfound => exact hprogram hfound
    | listed hnone => exact hnone hslash
  · rw [Path.any_isSlash_iff] at hslash
    rw [List.find?_map, Option.map_eq_some_iff]
    constructor
    · rintro ⟨directory, hfirst, rfl⟩
      exact .listed hslash (firstOnPath_iff.2 hfirst)
    · intro h
      cases h with
      | named hsome => exact absurd hsome hslash
      | listed _ hfirst => exact ⟨_, firstOnPath_iff.1 hfirst, rfl⟩

theorem programFor?_eq_none_iff :
    host.programFor? name = none ↔ ∀ found, ¬ host.Finds name found := by
  simp only [Option.eq_none_iff_forall_ne_some, ne_eq, programFor?_eq_some_iff]

/-- A file in a directory has an absolute path exactly if the directory has. -/
theorem isAbsolute_inDirectory (hname : .char '/' ∉ name) (directory : Text) :
    (Path.ofText (inDirectory directory name)).isAbsolute = (Path.ofText directory).isAbsolute := by
  rw [Bool.eq_iff_iff, Path.isAbsolute_ofText_iff, Path.isAbsolute_ofText_iff]
  cases directory with
  | nil =>
    refine iff_of_false (fun h => hname ?_) (by simp)
    exact List.mem_of_head? h
  | cons c directory =>
    unfold inDirectory
    split_ifs <;> simp_all

/-- What a relative name finds is absolute unless it is found below the current
    directory. -/
theorem isAbsolute_iff_not_strays (hname : (Path.ofText name).isAbsolute = false)
    (h : host.Finds name found) :
    (Path.ofText found).isAbsolute = true ↔ ¬ host.Strays name := by
  cases h with
  | named hslash =>
    refine iff_of_false ?_ (not_not.2 (.named hslash hname))
    rw [hname]
    exact Bool.false_ne_true
  | @listed directory hslash hfirst =>
    rw [isAbsolute_inDirectory hslash]
    constructor
    · intro habsolute hstrays
      cases hstrays with
      | named hsome => exact hslash hsome
      | listed _ hfirst' hrelative =>
        rw [hfirst'.unique hfirst, habsolute] at hrelative
        cases hrelative
    · intro hnot
      by_contra hrelative
      exact hnot (.listed hslash hfirst (Bool.eq_false_of_not_eq_true hrelative))

theorem not_strays_of_isAbsolute (hname : (Path.ofText name).isAbsolute = true) :
    ¬ host.Strays name := by
  intro h
  cases h with
  | named _ hrelative =>
    rw [hname] at hrelative
    cases hrelative
  | listed hslash =>
    rw [Path.isAbsolute_ofText_iff] at hname
    exact hslash (List.mem_of_head? hname)

/-! ## Commands -/

theorem normalizeArgs_of_isAbsolute (hname : (Path.ofText name).isAbsolute = true) :
    host.normalizeArgs (name :: rest) = .ok ((Path.ofText name).text :: rest) := by
  simp only [normalizeArgs, hname, if_true]

theorem normalizeArgs_of_finds (hname : (Path.ofText name).isAbsolute = false)
    (h : host.Finds name found) : host.normalizeArgs (name :: rest) = .ok (found :: rest) := by
  simp only [normalizeArgs, hname, Bool.false_eq_true, if_false, programFor?_eq_some_iff.2 h]

theorem normalizeArgs_of_missing (hname : (Path.ofText name).isAbsolute = false)
    (h : ∀ found, ¬ host.Finds name found) :
    host.normalizeArgs (name :: rest) = .error (.notFound name) := by
  simp only [normalizeArgs, hname, Bool.false_eq_true, if_false, programFor?_eq_none_iff.2 h]

/-- What a command that is not empty comes to. -/
theorem normalizeArgs_cases (host : Host) (name : Text) (rest : List Text) :
    (∃ head, host.normalizeArgs (name :: rest) = .ok (head :: rest) ∧
      ((Path.ofText name).isAbsolute = true ∧ head = (Path.ofText name).text ∨
        (Path.ofText name).isAbsolute = false ∧ host.Finds name head)) ∨
    host.normalizeArgs (name :: rest) = .error (.notFound name) ∧
      (Path.ofText name).isAbsolute = false ∧ ∀ found, ¬ host.Finds name found := by
  cases hname : (Path.ofText name).isAbsolute with
  | true => exact Or.inl ⟨_, normalizeArgs_of_isAbsolute hname, Or.inl ⟨rfl, rfl⟩⟩
  | false =>
    by_cases hfinds : ∃ found, host.Finds name found
    · obtain ⟨found, hfound⟩ := hfinds
      exact Or.inl ⟨found, normalizeArgs_of_finds hname hfound, Or.inr ⟨rfl, hfound⟩⟩
    · rw [not_exists] at hfinds
      exact Or.inr ⟨normalizeArgs_of_missing hname hfinds, rfl, hfinds⟩

end Host

/-- **The program of a command is replaced by where it is.**  An empty command is refused as
    such, and one whose program is not absolute exactly if the search finds none.  Any other
    keeps its arguments, its program is the one that is named or found, and the path of
    that is absolute unless the name strays: it has a slash without being absolute, or the
    first directory of the search path that has it is relative. -/
theorem normalizeArgs_absolute_unless_strays (host : Host) :
    (∀ args, host.normalizeArgs args = .error .noProgram ↔ args = []) ∧
    (∀ args name, host.normalizeArgs args = .error (.notFound name) ↔
      args.head? = some name ∧ (Path.ofText name).isAbsolute = false ∧
        ∀ found, ¬ host.Finds name found) ∧
    ∀ name rest, (Path.ofText name).isAbsolute = true ∨ (∃ found, host.Finds name found) →
      ∃ head, host.normalizeArgs (name :: rest) = .ok (head :: rest) ∧
        ((Path.ofText name).isAbsolute = true ∧ head = (Path.ofText name).text ∨
          (Path.ofText name).isAbsolute = false ∧ host.Finds name head) ∧
        ((Path.ofText head).isAbsolute = true ↔ ¬ host.Strays name) := by
  refine ⟨fun args => ?_, fun args name => ?_, fun name rest hthere => ?_⟩
  · cases args with
    | nil => exact iff_of_true rfl rfl
    | cons name rest =>
      refine iff_of_false ?_ (List.cons_ne_nil _ _)
      rcases host.normalizeArgs_cases name rest with ⟨head, heq, -⟩ | ⟨heq, -⟩ <;> simp [heq]
  · cases args with
    | nil => exact iff_of_false (by simp [Host.normalizeArgs]) (by simp)
    | cons program rest =>
      rcases host.normalizeArgs_cases program rest with ⟨head, heq, hhead⟩ | ⟨heq, hmissing⟩
      · refine iff_of_false (by simp [heq]) ?_
        rintro ⟨hprogram, hrelative, hnone⟩
        cases hprogram
        rcases hhead with ⟨habsolute, -⟩ | ⟨-, hfound⟩
        · rw [hrelative] at habsolute
          cases habsolute
        · exact hnone head hfound
      · constructor
        · intro h
          rw [heq] at h
          cases h
          exact ⟨rfl, hmissing⟩
        · rintro ⟨hprogram, -⟩
          cases hprogram
          exact heq
  · rcases host.normalizeArgs_cases name rest with ⟨head, heq, hhead⟩ | ⟨-, hrelative, hnone⟩
    · refine ⟨head, heq, hhead, ?_⟩
      rcases hhead with ⟨habsolute, rfl⟩ | ⟨hrelative, hfound⟩
      · exact iff_of_true (Path.isAbsolute_ofText_text habsolute)
          (Host.not_strays_of_isAbsolute habsolute)
      · exact Host.isAbsolute_iff_not_strays hrelative hfound
    · rcases hthere with habsolute | ⟨found, hfound⟩
      · rw [hrelative] at habsolute
        cases habsolute
      · exact absurd hfound (hnone found)

/-- A program in a directory below the current one, on a search path. -/
def toolHost (path : Text) : Host :=
  ⟨⟨[(["w"], .dir), (["w", "b"], .dir), (["w", "b", "run"], .file [] true)]⟩, .ofText "/w",
    [("PATH", path)]⟩

theorem programFor?_toolHost :
    (toolHost "b").programFor? "run" = some "b/run" ∧
      (toolHost "/w/b").programFor? "run" = some "/w/b/run" := by
  constructor <;> cbv

/-- The same program has a relative path if the search path names its directory so. -/
theorem normalizeArgs_toolHost :
    ((toolHost "b").Finds "run" "b/run" ∧
      ∃ head, (toolHost "b").normalizeArgs ["run", "-x"] = .ok [head, "-x"] ∧
        (Path.ofText head).isAbsolute = false) ∧
    (toolHost "/w/b").Finds "run" "/w/b/run" ∧
      ∃ head, (toolHost "/w/b").normalizeArgs ["run", "-x"] = .ok [head, "-x"] ∧
        (Path.ofText head).isAbsolute = true := by
  have hrelative : (toolHost "b").Finds "run" "b/run" :=
    Host.programFor?_eq_some_iff.1 programFor?_toolHost.1
  have habsolute : (toolHost "/w/b").Finds "run" "/w/b/run" :=
    Host.programFor?_eq_some_iff.1 programFor?_toolHost.2
  have hname : (Path.ofText "run").isAbsolute = false := by decide
  refine ⟨⟨hrelative, ?_⟩, habsolute, ?_⟩
  · obtain ⟨head, heq, -, hiff⟩ :=
      (normalizeArgs_absolute_unless_strays _).2.2 "run" ["-x"] (Or.inr ⟨_, hrelative⟩)
    have hsame := hiff.trans (Host.isAbsolute_iff_not_strays hname hrelative).symm
    exact ⟨head, heq, Bool.eq_false_of_not_eq_true (hsame.not.2 (by decide))⟩
  · obtain ⟨head, heq, -, hiff⟩ :=
      (normalizeArgs_absolute_unless_strays _).2.2 "run" ["-x"] (Or.inr ⟨_, habsolute⟩)
    have hsame := hiff.trans (Host.isAbsolute_iff_not_strays hname habsolute).symm
    exact ⟨head, heq, hsame.2 (by decide)⟩

end FlowLens
