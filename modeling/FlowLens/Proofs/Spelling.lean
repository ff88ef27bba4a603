/-
  The many ways to write a path, and the one file that they name.  A path is
  resolved by its text alone, so `.` and a name with `..` behind it may stand before
  any component, and a slash between two components may be repeated.

  * `Path.Component` and `Path.Ordinary`, the pieces of a path that is read and of
    one that is resolved;
  * `Path.ofText_text`: a path is read back as it was written;
  * `Path.Respelled`, one more way to write a path;
  * `fileBelow_of_respelled`: it names the same file, and `ordinary_fileBelow`: a
    file is named without detours;
  * `Entry.fileNamed?`, the file that an entry is about.
-/
import FlowLens.Proofs.Telling
import Mathlib

namespace FlowLens

/-! ## Pieces -/

namespace Text

variable {p : CodePoint → Bool} {c : CodePoint} {t u v : Text}

theorem splitBy_ne_nil (p : CodePoint → Bool) (t : Text) : splitBy p t ≠ [] := by
  cases t with
  | nil => simp [splitBy]
  | cons c rest =>
    unfold splitBy
    split_ifs
    · simp
    · split <;> simp

/-- A separator divides the pieces before it from those behind it. -/
theorem splitBy_append_cons (hc : p c = true) (u v : Text) :
    splitBy p (u ++ c :: v) = splitBy p u ++ splitBy p v := by
  induction u with
  | nil => simp [splitBy, hc]
  | cons a u ih =>
    rw [List.cons_append, splitBy, splitBy, ih]
    split_ifs
    · rfl
    · cases hu : splitBy p u with
      | nil => exact absurd hu (splitBy_ne_nil p u)
      | cons piece pieces => rfl

theorem splitBy_of_forall (h : ∀ c ∈ t, p c = false) : splitBy p t = [t] := by
  induction t with
  | nil => rfl
  | cons c rest ih =>
    rw [List.forall_mem_cons] at h
    rw [splitBy, if_neg (by simp [h.1]), ih h.2]

theorem not_separator_of_mem_splitBy {piece : Text} (h : piece ∈ splitBy p t) :
    ∀ c ∈ piece, p c = false := by
  induction t generalizing piece with
  | nil => simp_all [splitBy]
  | cons c rest ih =>
    unfold splitBy at h
    split_ifs at h with hc
    · rcases List.mem_cons.1 h with rfl | h
      · simp
      · exact ih h
    · cases hrest : splitBy p rest with
      | nil => exact absurd hrest (splitBy_ne_nil p rest)
      | cons first others =>
        rw [hrest] at h
        rcases List.mem_cons.1 h with rfl | h
        · exact List.forall_mem_cons.2 ⟨by simpa using hc, ih (by simp [hrest])⟩
        · exact ih (by simp [hrest, h])

theorem components_append_cons (hc : p c = true) (u v : Text) :
    components p (u ++ c :: v) = components p u ++ components p v := by
  rw [components, splitBy_append_cons hc, List.filter_append]
  rfl

/-- Behind a separator, or at the start, a new component begins. -/
theorem components_append (hu : ∀ c ∈ u.getLast?, p c = true) (v : Text) :
    components p (u ++ v) = components p u ++ components p v := by
  rcases List.eq_nil_or_concat' u with rfl | ⟨u, c, rfl⟩
  · rfl
  · have hc : p c = true := hu c (by simp)
    rw [List.append_assoc, List.singleton_append, components_append_cons hc,
      components_append_cons hc]
    simp [components, splitBy]

end Text

namespace Path

/-- A piece of a path that counts: it is not empty, is not `.` and holds no slash. -/
def Component (part : Text) : Prop :=
  part ≠ [] ∧ part ≠ "." ∧ ∀ c ∈ part, isSlash c = false

/-- A name of a file or a directory: a component that is not `..`. -/
def Ordinary (part : Text) : Prop :=
  Component part ∧ part ≠ ".."

instance (part : Text) : Decidable (Component part) :=
  inferInstanceAs (Decidable (_ ∧ _))

instance (part : Text) : Decidable (Ordinary part) :=
  inferInstanceAs (Decidable (_ ∧ _))

variable {part t u v : Text} {parts : List Text}

theorem component_of_mem (h : part ∈ t.components isSlash) : Component part := by
  obtain ⟨hmem, hcounts⟩ := List.mem_filter.1 h
  simp only [Bool.and_eq_true, Bool.not_eq_true', List.isEmpty_eq_false_iff, ne_eq,
    decide_eq_true_eq] at hcounts
  exact ⟨hcounts.1, hcounts.2, Text.not_separator_of_mem_splitBy hmem⟩

theorem components_of_component (h : Component part) : part.components isSlash = [part] := by
  rw [Text.components, Text.splitBy_of_forall h.2.2]
  simp [h.1, h.2.1]

/-- Components that are written with slashes between them are read back. -/
theorem components_joinWith (h : ∀ part ∈ parts, Component part) :
    (Text.joinWith "/" parts).components isSlash = parts := by
  induction parts with
  | nil => rfl
  | cons part rest ih =>
    rw [List.forall_mem_cons] at h
    cases rest with
    | nil => exact components_of_component h.1
    | cons next rest =>
      have hjoin : Text.joinWith "/" (part :: next :: rest) =
          part ++ .char '/' :: Text.joinWith "/" (next :: rest) := by
        simp [Text.joinWith, Text.ofString]
      rw [hjoin, Text.components_append_cons rfl, components_of_component h.1, ih h.2]
      rfl

/-! ## Reading back -/

/-- The slashes in front are those of the first part, if the second one starts with
    none or the first one has something else. -/
theorem takeWhile_append_eq
    (h : (∃ c ∈ u, isSlash c = false) ∨ ∀ c ∈ v.head?, isSlash c = false) :
    (u ++ v).takeWhile isSlash = u.takeWhile isSlash := by
  rw [List.takeWhile_append]
  split_ifs with hall
  · have hself := List.IsPrefix.eq_of_length (List.takeWhile_prefix _) hall
    rcases h with ⟨c, hc, hslash⟩ | hv
    · rw [List.takeWhile_eq_self_iff.1 hself c hc] at hslash
      cases hslash
    · cases v with
      | nil => rw [List.takeWhile_nil, List.append_nil, hself]
      | cons c rest =>
        rw [List.takeWhile_cons_of_neg (by simp [hv c (by simp)]), List.append_nil, hself]
  · rfl

theorem anchorOf_append (h : (∃ c ∈ u, isSlash c = false) ∨ ∀ c ∈ v.head?, isSlash c = false) :
    anchorOf (u ++ v) = anchorOf u := by
  rw [anchorOf, takeWhile_append_eq h, anchorOf]

/-- A path whose parts are all components. -/
def Proper (p : Path) : Prop :=
  ∀ part ∈ p.parts, Component part

variable {p q : Path}

theorem proper_ofText (t : Text) : (ofText t).Proper :=
  fun _ => component_of_mem

theorem head_joinWith (h : ∀ part ∈ parts, Component part) :
    ∀ c ∈ (Text.joinWith "/" parts).head?, isSlash c = false := by
  intro c hc
  cases parts with
  | nil => simp [Text.joinWith] at hc
  | cons part rest =>
    obtain ⟨hne, -, hslash⟩ := h part (by simp)
    cases rest with
    | nil => exact hslash c (List.mem_of_mem_head? hc)
    | cons next rest =>
      rw [Text.joinWith, List.append_assoc, List.head?_append_of_ne_nil _ hne] at hc
      · exact hslash c (List.mem_of_mem_head? hc)
      · simp

/-- **The slashes that a path starts with** are those of its anchor. -/
theorem takeWhile_text (hp : p.Proper) : p.text.takeWhile isSlash = p.anchor.text := by
  obtain ⟨anchor, parts⟩ := p
  have hjoin : (anchor.text ++ Text.joinWith "/" parts).takeWhile isSlash = anchor.text := by
    rw [takeWhile_append_eq (.inr (head_joinWith hp))]
    cases anchor <;> rfl
  unfold text
  split
  · next heq _ =>
    cases heq
    rfl
  · exact hjoin

/-- **A path is read back as it was written.** -/
theorem ofText_text (hp : p.Proper) : ofText p.text = p := by
  obtain ⟨anchor, parts⟩ := p
  have hanchor : anchorOf (anchor.text ++ Text.joinWith "/" parts) = anchor := by
    rw [anchorOf_append (.inr (head_joinWith hp))]
    cases anchor <;> rfl
  have hparts : (anchor.text ++ Text.joinWith "/" parts).components isSlash = parts := by
    rw [Text.components_append (by cases anchor <;> decide), components_joinWith hp]
    cases anchor <;> rfl
  unfold text
  split
  · next heq hnil =>
    cases heq
    cases hnil
    rfl
  · rw [ofText, hanchor, hparts]

/-! ## Working out `..` -/

theorem foldl_step_of_ordinary (done : List Text) (h : ∀ part ∈ parts, part ≠ "..") :
    parts.foldl collapse.step done = done ++ parts := by
  induction parts generalizing done with
  | nil => simp
  | cons part rest ih =>
    rw [List.forall_mem_cons] at h
    rw [List.foldl_cons, collapse.step, if_neg h.1, ih _ h.2, List.append_assoc]
    rfl

theorem collapse_of_ordinary (h : ∀ part ∈ parts, part ≠ "..") : collapse parts = parts :=
  foldl_step_of_ordinary [] h

theorem collapse_append_of_ordinary (before : List Text) (h : ∀ part ∈ parts, part ≠ "..") :
    collapse (before ++ parts) = collapse before ++ parts := by
  rw [collapse, List.foldl_append]
  exact foldl_step_of_ordinary _ h

theorem mem_of_mem_foldl_step {done : List Text} (h : part ∈ parts.foldl collapse.step done) :
    part ∈ done ∨ part ∈ parts ∧ part ≠ ".." := by
  induction parts generalizing done with
  | nil => exact .inl h
  | cons next rest ih =>
    rcases ih h with hdone | ⟨hrest, hne⟩
    · unfold collapse.step at hdone
      split_ifs at hdone with hup
      · exact .inl (List.mem_of_mem_dropLast hdone)
      · rcases List.mem_append.1 hdone with hdone | hnext
        · exact .inl hdone
        · obtain rfl := List.mem_singleton.1 hnext
          exact .inr ⟨List.mem_cons_self .., hup⟩
    · exact .inr ⟨List.mem_cons_of_mem _ hrest, hne⟩

theorem mem_of_mem_collapse (h : part ∈ collapse parts) : part ∈ parts ∧ part ≠ ".." := by
  rcases mem_of_mem_foldl_step h with hnil | hmem
  · cases hnil
  · exact hmem

/-- A name with `..` behind it leads nowhere. -/
theorem collapse_detour {name : Text} (hname : name ≠ "..") (before behind : List Text) :
    collapse (before ++ ([name, ".."] ++ behind)) = collapse (before ++ behind) := by
  rw [collapse, List.foldl_append, List.foldl_append, collapse, List.foldl_append]
  congr 1
  simp [collapse.step, hname]

/-! ## Respelling -/

/-- Where a path with the anchor `a` is seen from. -/
def viewpoint (cwd root : Path) (a : Anchor) : Path :=
  cwd.join (root.join ⟨a, []⟩)

theorem proper_join (hp : p.Proper) (hq : q.Proper) : (p.join q).Proper := by
  unfold join
  split
  · intro part hpart
    exact (List.mem_append.1 hpart).elim (hp part) (hq part)
  · exact hq

theorem proper_viewpoint (hp : p.Proper) (hq : q.Proper) (a : Anchor) :
    (viewpoint p q a).Proper :=
  proper_join hp (proper_join hq fun _ h => by cases h)

theorem isAbsolute_join (hp : p.isAbsolute = true) (q : Path) : (p.join q).isAbsolute = true := by
  unfold join
  split
  · exact hp
  · next hne => simpa [isAbsolute] using hne

theorem length_anchor_of_isAbsolute (hp : p.isAbsolute = true) :
    p.anchor.text.length = 1 ∨ p.anchor.text.length = 2 := by
  obtain ⟨anchor, parts⟩ := p
  cases anchor with
  | here => cases hp
  | root => exact .inl rfl
  | doubleRoot => exact .inr rfl

/-- One more way to write a path.  Where a component starts or could start, `./` or a
    name with `/../` behind it is put in; and a slash that stands behind something
    else than slashes is repeated. -/
inductive Respelled : Text → Text → Prop
  | dot (u v : Text) (hu : ∀ c ∈ u.getLast?, isSlash c = true)
      (hv : ∀ c ∈ v.head?, isSlash c = false) :
      Respelled (u ++ v) (u ++ (("./" : Text) ++ v))
  | detour (u name v : Text) (hu : ∀ c ∈ u.getLast?, isSlash c = true)
      (hv : ∀ c ∈ v.head?, isSlash c = false) (hname : Ordinary name) :
      Respelled (u ++ v) (u ++ (name ++ "/../" ++ v))
  | slash (u v : Text) (hu : ∃ c ∈ u, isSlash c = false) :
      Respelled (u ++ .char '/' :: v) (u ++ .char '/' :: .char '/' :: v)

theorem components_dot (v : Text) :
    (("./" : Text) ++ v).components isSlash = v.components isSlash := by
  rw [Text.components_append (by decide)]
  rfl

theorem components_detour {name : Text} (hname : Component name) (v : Text) :
    (name ++ "/../" ++ v).components isSlash = [name, ".."] ++ v.components isSlash := by
  have hlast : ∀ c ∈ (name ++ ("/../" : Text)).getLast?, isSlash c = true := by
    rw [List.getLast?_append_of_ne_nil _ (by decide)]
    decide
  have hup : (name ++ ("/../" : Text)).components isSlash = [name, ".."] := by
    rw [show name ++ ("/../" : Text) = name ++ .char '/' :: ("../" : Text) from rfl,
      Text.components_append_cons rfl, components_of_component hname]
    rfl
  rw [Text.components_append hlast, hup]

end Path

/-! ## Files -/

section
variable {cwd : Path} {root file p q : Text}

theorem fileBelow_eq (cwd : Path) (root file : Text) :
    let view := Path.viewpoint cwd (.ofText root) (Path.anchorOf file)
    fileBelow cwd root file =
      ⟨view.anchor, Path.collapse (view.parts ++ file.components Path.isSlash)⟩ := by
  unfold fileBelow Path.resolve Path.viewpoint Path.join Path.ofText
  cases Path.anchorOf file <;> cases Path.anchorOf root <;> simp

/-- **Every spelling of a path names the same file.** -/
theorem fileBelow_of_respelled (h : Path.Respelled p q) :
    fileBelow cwd root q = fileBelow cwd root p := by
  rw [fileBelow_eq, fileBelow_eq]
  cases h with
  | dot u v hu hv =>
    have hdot : ∀ c ∈ (("./" : Text) ++ v).head?, Path.isSlash c = false := by
      intro c hc
      cases hc
      rfl
    rw [Path.anchorOf_append (.inr hdot), Path.anchorOf_append (.inr hv),
      Text.components_append hu, Text.components_append hu, Path.components_dot]
  | detour u name v hu hv hname =>
    have hhead : ∀ c ∈ (name ++ "/../" ++ v).head?, Path.isSlash c = false := by
      intro c hc
      rw [List.append_assoc, List.head?_append_of_ne_nil _ hname.1.1] at hc
      exact hname.1.2.2 c (List.mem_of_mem_head? hc)
    rw [Path.anchorOf_append (.inr hhead), Path.anchorOf_append (.inr hv),
      Text.components_append hu, Text.components_append hu, Path.components_detour hname.1,
      ← List.append_assoc, Path.collapse_detour hname.2, List.append_assoc]
  | slash u v hu =>
    rw [Path.anchorOf_append (.inl hu), Path.anchorOf_append (.inl hu),
      Text.components_append_cons rfl, Text.components_append_cons rfl]
    rfl

theorem fileBelow_of_eqvGen (h : Relation.EqvGen Path.Respelled p q) :
    fileBelow cwd root q = fileBelow cwd root p := by
  induction h with
  | rel p q h => exact fileBelow_of_respelled h
  | refl p => rfl
  | symm p q _ ih => exact ih.symm
  | trans p q t _ _ ihp ihq => exact ihq.trans ihp

/-- **A file is named without detours.** -/
theorem ordinary_fileBelow (hcwd : cwd.Proper) (root file : Text) :
    ∀ part ∈ (fileBelow cwd root file).parts, Path.Ordinary part := by
  intro part hpart
  rw [fileBelow_eq] at hpart
  obtain ⟨hmem, hup⟩ := Path.mem_of_mem_collapse hpart
  refine ⟨?_, hup⟩
  rcases List.mem_append.1 hmem with hmem | hmem
  · exact Path.proper_viewpoint hcwd (Path.proper_ofText root) _ part hmem
  · exact Path.component_of_mem hmem

theorem isAbsolute_fileBelow (hcwd : cwd.isAbsolute = true) (root file : Text) :
    (fileBelow cwd root file).isAbsolute = true :=
  Path.isAbsolute_join hcwd _

/-- The text of a file names it from everywhere. -/
theorem fileBelow_text {r : Path} (habsolute : r.isAbsolute = true)
    (hparts : ∀ part ∈ r.parts, Path.Ordinary part) (cwd : Path) (root : Text) :
    fileBelow cwd root r.text = r := by
  obtain ⟨anchor, parts⟩ := r
  rw [fileBelow, Path.ofText_text fun part hpart => (hparts part hpart).1, Path.resolve]
  have hcollapse := Path.collapse_of_ordinary fun part hpart => (hparts part hpart).2
  cases anchor with
  | here => cases habsolute
  | root | doubleRoot => exact congrArg (Path.mk _) hcollapse

/-- Names behind each other lead from the root of the project to a file below it. -/
theorem fileBelow_joinWith {names : List Text} (hnames : ∀ name ∈ names, Path.Ordinary name)
    (cwd : Path) (root : Text) :
    fileBelow cwd root (Text.joinWith "/" names) =
      ⟨(fileBelow cwd root []).anchor, (fileBelow cwd root []).parts ++ names⟩ := by
  have hcomponents : ∀ name ∈ names, Path.Component name := fun name hname => (hnames name hname).1
  have hanchor : Path.anchorOf (Text.joinWith "/" names) = Path.anchorOf [] :=
    Path.anchorOf_append (u := []) (.inr (Path.head_joinWith hcomponents))
  rw [fileBelow_eq, fileBelow_eq, hanchor, Path.components_joinWith hcomponents,
    Path.collapse_append_of_ordinary _ fun name hname => (hnames name hname).2]
  simp [Text.components, Text.splitBy]

end

/-! ## Entries -/

namespace Entry

variable {cwd target : Path} {root : Text} {e : Entry}

/-- The description of an entry says something that is of use for one file. -/
def IsOfUse (e : Entry) : Prop :=
  e.primary.descr ≠ [] ∧ ¬ sharedDefinitions <:+: e.primary.descr

/-- The file that an entry is about, by the source of the place that decides; an
    empty source names none. -/
def fileNamed? (cwd : Path) (root : Text) (e : Entry) : Option Path :=
  ((e.place?.bind (·.source)).filter (· ≠ [])).map (fileBelow cwd root)

/-- **An entry is told if it names the file.** -/
theorem concerns_iff_fileNamed? :
    e.concerns cwd root target = true ↔ e.IsOfUse ∧ e.fileNamed? cwd root = some target := by
  unfold concerns fileNamed? IsOfUse
  cases e.place?.bind (·.source) with
  | none => simp
  | some source =>
    rw [Option.filter_some]
    by_cases hsource : source = []
    · simp [hsource]
    · simp [hsource, ← Text.has_iff, and_assoc]

end Entry

/-- **A file has many spellings and one name.**  Seen from an absolute directory, the
    file that a path below a root names is written with one slash in front or with
    exactly two, without empty, `.` or `..` components; that text names it from
    everywhere, and so do all other spellings of the path, and below the root the
    names that lead to it.  Entries that are of use are told exactly if their source
    names the file, in whatever spelling, but an empty one. -/
theorem fileBelow_spellings {dir : Text} (hdir : (Path.ofText dir).isAbsolute = true)
    (root file : Text) :
    let cwd := Path.ofText dir
    let r := fileBelow cwd root file
    ((r.text.takeWhile Path.isSlash).length = 1 ∨ (r.text.takeWhile Path.isSlash).length = 2) ∧
    (∀ part ∈ r.parts, part ≠ [] ∧ part ≠ "." ∧ part ≠ ".." ∧ .char '/' ∉ part) ∧
    (∀ cwd' root', fileBelow cwd' root' r.text = r) ∧
    (∀ q, Relation.EqvGen Path.Respelled file q → fileBelow cwd root q = r) ∧
    (∀ names : List Text, (∀ name ∈ names, Path.Ordinary name) →
      fileBelow cwd root (Text.joinWith "/" names) =
        ⟨(fileBelow cwd root []).anchor, (fileBelow cwd root []).parts ++ names⟩) ∧
    ∀ e : Entry, e.concerns cwd root r = true ↔
      e.IsOfUse ∧ ∃ source, e.place?.bind (·.source) = some source ∧ source ≠ [] ∧
        fileBelow cwd root source = r := by
  intro cwd r
  have habsolute : r.isAbsolute = true := isAbsolute_fileBelow hdir root file
  have hparts := ordinary_fileBelow (Path.proper_ofText dir) root file
  refine ⟨?_, fun part hpart => ?_, fileBelow_text habsolute hparts,
    fun q => fileBelow_of_eqvGen, fun names hnames => fileBelow_joinWith hnames cwd root,
    fun e => ?_⟩
  · rw [Path.takeWhile_text fun part hpart => (hparts part hpart).1]
    exact Path.length_anchor_of_isAbsolute habsolute
  · obtain ⟨⟨hne, hdot, hslash⟩, hup⟩ := hparts part hpart
    exact ⟨hne, hdot, hup, fun hmem => by simpa [Path.isSlash] using hslash _ hmem⟩
  · rw [Entry.concerns_iff_fileNamed?, Entry.fileNamed?]
    simp only [Option.map_eq_some_iff, Option.filter_eq_some_iff, decide_eq_true_eq, and_assoc]

/-- The file `a.js` of the project `p` in the directory `/w`, with a detour and a
    slash that is repeated. -/
theorem fileBelow_sampleSpelling :
    fileBelow (.ofText "/w") "p" "x/..//a.js" = fileBelow (.ofText "/w") "p" "a.js" ∧
      (fileBelow (.ofText "/w") "p" "a.js").text = "/w/p/a.js" := by
  have hdir : (Path.ofText "/w").isAbsolute = true := by decide
  obtain ⟨-, -, -, hspelled, -⟩ := fileBelow_spellings hdir "p" "a.js"
  refine ⟨hspelled _ ?_, by decide⟩
  have hdetour : Path.Respelled "a.js" "x/../a.js" :=
    .detour [] "x" "a.js" (by decide) (by decide) (by decide)
  have hslash : Path.Respelled "x/../a.js" "x/..//a.js" := .slash "x/.." "a.js" (by decide)
  exact .trans _ _ _ (.rel _ _ hdetour) (.rel _ _ hslash)

/-- An entry about a source. -/
def entryFrom (source : Text) : Entry :=
  ⟨⟨source, "x", none, 1, 1, some ⟨some source, ⟨1, 1, none⟩, ⟨1, 1, none⟩, none⟩⟩, [], none, none,
    none⟩

/-- An empty source and `.` name the same file by their text, but an entry is told
    for the second one only. -/
theorem concerns_emptySource :
    fileBelow (.ofText "/") "/proj" "" = fileBelow (.ofText "/") "/proj" "." ∧
      (entryFrom "").concerns (.ofText "/") "/proj" (fileBelow (.ofText "/") "/proj" ".") = false ∧
      (entryFrom ".").concerns (.ofText "/") "/proj" (fileBelow (.ofText "/") "/proj" ".") =
        true := by
  decide

end FlowLens
