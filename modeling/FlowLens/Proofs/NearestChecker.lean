/-
  The checker that is found is the nearest one.

  * `Path.Above` orders the directories on the way from a directory to its root, and
    `Path.Nearest` is the first of them with a property;
  * `Host.Stops`: at a directory the climb stops, with a checker or at a place that
    cannot be looked at;
  * `Host.climbs`: what the climb from a directory comes to;
  * `Host.findsNearest_iff` and `Host.chooses_iff`: nothing but such a place keeps a
    search from the nearest checker.
-/
import Mathlib
import FlowLens.Proofs.SettingsFaults
import FlowLens.Settings.Locate

namespace FlowLens

/-! ## The way up -/

namespace Path

variable {d e p : Path} {name : Text}

/-- A directory is another one, or above it. -/
def Above (d p : Path) : Prop :=
  d.anchor = p.anchor ∧ d.parts <+: p.parts

/-- The nearest directory with a property, at another one or above it. -/
def Nearest (p : Path) (P : Path → Prop) (d : Path) : Prop :=
  d.Above p ∧ P d ∧ ∀ e : Path, e.Above p → d.Above e → P e → e = d

theorem Above.refl (p : Path) : p.Above p :=
  ⟨rfl, List.prefix_rfl⟩

theorem Above.antisymm (hd : d.Above e) (he : e.Above d) : d = e := by
  have hparts := hd.2.eq_of_length_le he.2.length_le
  cases d
  cases e
  rw [mk.injEq]
  exact ⟨hd.1, hparts⟩

/-- Of two directories above a third, one is above the other. -/
theorem Above.total (hd : d.Above p) (he : e.Above p) : d.Above e ∨ e.Above d := by
  obtain h | h := List.prefix_or_prefix_of_prefix hd.2 he.2
  · exact .inl ⟨hd.1.trans he.1.symm, h⟩
  · exact .inr ⟨he.1.trans hd.1.symm, h⟩

theorem above_root_iff {anchor : Anchor} : d.Above ⟨anchor, []⟩ ↔ d = ⟨anchor, []⟩ := by
  cases d
  simp [Above]

theorem above_child_iff : d.Above (p.child name) ↔ d = p.child name ∨ d.Above p := by
  cases d
  simp only [Above, child, List.prefix_concat_iff, mk.injEq]
  tauto

/-- A directory is the root or is in another one. -/
@[elab_as_elim]
theorem childInduction {motive : Path → Prop} (root : ∀ anchor, motive ⟨anchor, []⟩)
    (child : ∀ (p : Path) (name : Text), motive p → motive (p.child name)) (p : Path) :
    motive p := by
  obtain ⟨anchor, parts⟩ := p
  induction parts using List.reverseRecOn with
  | nil => exact root anchor
  | append_singleton parts name ih => exact child ⟨anchor, parts⟩ name ih

theorem nearest_self {P : Path → Prop} (h : P p) : p.Nearest P p :=
  ⟨.refl p, h, fun _ he hp _ => he.antisymm hp⟩

theorem Nearest.child {P : Path → Prop} (h : p.Nearest P d) (hchild : ¬ P (p.child name)) :
    (p.child name).Nearest P d := by
  obtain ⟨habove, hd, hfirst⟩ := h
  refine ⟨above_child_iff.2 (.inr habove), hd, ?_⟩
  intro e he hde hP
  obtain rfl | he := above_child_iff.1 he
  · exact absurd hP hchild
  · exact hfirst e he hde hP

theorem exists_nearest {P : Path → Prop} (habove : d.Above p) (hd : P d) :
    ∃ e, p.Nearest P e := by
  induction p using childInduction with
  | root anchor =>
    obtain rfl := above_root_iff.1 habove
    exact ⟨_, nearest_self hd⟩
  | child p name ih =>
    by_cases hchild : P (p.child name)
    · exact ⟨_, nearest_self hchild⟩
    · obtain rfl | habove := above_child_iff.1 habove
      · exact absurd hd hchild
      · obtain ⟨e, he⟩ := ih habove
        exact ⟨e, he.child hchild⟩

theorem Nearest.unique {P : Path → Prop} (hd : p.Nearest P d) (he : p.Nearest P e) : d = e := by
  obtain h | h := hd.1.total he.1
  · exact (hd.2.2 e he.1 h he.2.1).symm
  · exact he.2.2 d hd.1 h hd.2.1

theorem Nearest.congr {P Q : Path → Prop} (h : p.Nearest P d)
    (hsame : ∀ e : Path, e.Above p → d.Above e → (Q e ↔ P e)) : p.Nearest Q d := by
  obtain ⟨habove, hd, hfirst⟩ := h
  refine ⟨habove, (hsame d habove (.refl d)).2 hd, ?_⟩
  intro e he hde hQ
  exact hfirst e he hde ((hsame e he hde).1 hQ)

end Path

/-! ## The climb -/

theorem FileTree.exists_of_regular? {tree : FileTree} {cwd : Path} {path : Text}
    {content : Option (List UInt8)} (h : tree.regular? cwd path = .ok (some (content, true))) :
    ∃ bytes, tree.locate cwd path = .ok (.file bytes true) := by
  unfold regular? at h
  split at h
  · next bytes executable hlocate =>
    cases h
    exact ⟨bytes, hlocate⟩
  · cases h
  · cases h
  · split_ifs at h
    cases h

namespace Host

variable {host : Host} {start directory d p : Path} {r : Refusal}

/-- The climb goes on to the directory that holds another one until it comes to one that
    holds itself. -/
theorem ancestors_eq (p : Path) :
    ancestors p = p :: if p.parent = p then [] else ancestors p.parent := by
  obtain ⟨anchor, parts⟩ := p
  induction parts using List.reverseRecOn with
  | nil => simp [ancestors, Path.parent]
  | append_singleton parts name _ =>
    have hparent : Path.parent ⟨anchor, parts ++ [name]⟩ = ⟨anchor, parts⟩ := by
      simp [Path.parent]
    have hmoves : (⟨anchor, parts⟩ : Path) ≠ ⟨anchor, parts ++ [name]⟩ := by
      simp
    rw [hparent, if_neg hmoves]
    simp only [ancestors, List.length_append, List.length_singleton, List.range_succ_eq_map,
      List.map_cons, List.map_map]
    refine congrArg₂ _ (by simp) (congrArg₂ _ (by simp) ?_)
    refine List.map_congr_left fun n _ => ?_
    simp

theorem ancestors_child (p : Path) (name : Text) :
    ancestors (p.child name) = p.child name :: ancestors p := by
  have hparent : (p.child name).parent = p := by
    simp [Path.parent, Path.child]
  have hmoves : p ≠ p.child name := by
    cases p
    simp [Path.child]
  rw [ancestors_eq, hparent, if_neg hmoves]

theorem mem_ancestors_iff : d ∈ ancestors p ↔ d.Above p := by
  induction p using Path.childInduction with
  | root anchor => simp [ancestors, Path.above_root_iff]
  | child p name ih => rw [ancestors_child, List.mem_cons, ih, Path.above_child_iff]

/-- What stands where a directory has the checker, if it has. -/
def placeIn (host : Host) (d : Path) : Except Refusal Node :=
  host.tree.locate host.cwd (installedIn d).text

/-- A directory has a checker that may be run. -/
def HasChecker (host : Host) (d : Path) : Prop :=
  ∃ bytes, host.placeIn d = .ok (.file bytes true)

/-- Where a directory would have the checker cannot be looked at, because a name on the
    way is too long or a directory may not be entered. -/
def Obscured (host : Host) (d : Path) (r : Refusal) : Prop :=
  host.tree.Hides host.cwd (installedIn d).text r

/-- A directory where the climb stops. -/
def Stops (host : Host) (d : Path) : Prop :=
  host.HasChecker d ∨ ∃ r, host.Obscured d r

/-- The fault of a climb that stops without a checker. -/
def obscuredFault (d : Path) (r : Refusal) : LocateFault :=
  .refused (r.about (installedIn d).text)

theorem HasChecker.not_obscured (h : host.HasChecker d) : ¬ host.Obscured d r := by
  obtain ⟨bytes, hplace⟩ := h
  intro hobscured
  cases hplace.symm.trans hobscured.refused

theorem installedIn_injective : Function.Injective installedIn := by
  rintro ⟨anchor, parts⟩ ⟨anchor', parts'⟩ h
  simpa [installedIn, Path.child] using h

theorem firstProgram_of_hasChecker (h : host.HasChecker d) (rest : List Path) :
    host.firstProgram (installedIn d :: rest) = .ok (some (installedIn d)) := by
  obtain ⟨bytes, hplace⟩ := h
  simp only [firstProgram, FileTree.regular?_eq_some_iff.2 hplace]

theorem firstProgram_of_obscured (h : host.Obscured d r) (rest : List Path) :
    host.firstProgram (installedIn d :: rest) = .error (obscuredFault d r) := by
  simp only [firstProgram, FileTree.regular?_eq_error_iff.2 h, obscuredFault]

/-- Whether the climb stops at a directory depends on nothing but its place. -/
theorem stops_iff : host.Stops d ↔
    (∃ bytes, host.placeIn d = .ok (.file bytes true)) ∨
      ∃ r, host.placeIn d = .error r ∧ r.isAbsence = false := by
  refine or_congr Iff.rfl (exists_congr fun r => ?_)
  exact FileTree.hides_iff

/-- Whatever else stands at the place, the climb goes on. -/
theorem firstProgram_of_not_stops (h : ¬ host.Stops d) (rest : List Path) :
    host.firstProgram (installedIn d :: rest) = host.firstProgram rest := by
  simp only [Stops, not_or] at h
  obtain ⟨hchecker, hseen⟩ := h
  cases hfile : host.tree.regular? host.cwd (installedIn d).text with
  | error r => exact absurd ⟨r, FileTree.regular?_eq_error_iff.1 hfile⟩ hseen
  | ok found =>
    simp only [firstProgram, hfile]
    split
    · cases ‹_›
    · next bytes heq =>
      cases heq
      exact absurd (FileTree.exists_of_regular? hfile) hchecker
    · rfl

/-- What a climb from a directory comes to. -/
inductive Climbs (host : Host) (p : Path) : Except LocateFault (Option Path) → Prop
  /-- It stops at a checker. -/
  | found (d : Path) : p.Nearest host.Stops d → host.HasChecker d →
      Climbs host p (.ok (some (installedIn d)))
  /-- It stops at a place that cannot be looked at. -/
  | obscured (d : Path) (r : Refusal) : p.Nearest host.Stops d → host.Obscured d r →
      Climbs host p (.error (obscuredFault d r))
  /-- It goes on beyond the root. -/
  | missing : (∀ d : Path, d.Above p → ¬ host.Stops d) → Climbs host p (.ok none)

theorem Climbs.child {name : Text} {answer : Except LocateFault (Option Path)}
    (h : host.Climbs p answer) (hchild : ¬ host.Stops (p.child name)) :
    host.Climbs (p.child name) answer := by
  cases h with
  | found d hnearest hd => exact .found d (hnearest.child hchild) hd
  | obscured d r hnearest hd => exact .obscured d r (hnearest.child hchild) hd
  | missing hnone =>
    refine .missing fun d habove => ?_
    obtain rfl | habove := Path.above_child_iff.1 habove
    · exact hchild
    · exact hnone d habove

/-- One step of the climb: it stops at the directory, or comes to what the places after it
    come to. -/
theorem climbs_cons {rest : List Path}
    (hrest : ¬ host.Stops p → host.Climbs p (host.firstProgram rest)) :
    host.Climbs p (host.firstProgram (installedIn p :: rest)) := by
  by_cases hstops : host.Stops p
  · have hnearest : p.Nearest host.Stops p := Path.nearest_self hstops
    obtain hchecker | ⟨r, hobscured⟩ := hstops
    · rw [firstProgram_of_hasChecker hchecker]
      exact .found p hnearest hchecker
    · rw [firstProgram_of_obscured hobscured]
      exact .obscured p r hnearest hobscured
  · rw [firstProgram_of_not_stops hstops]
    exact hrest hstops

theorem climbs (host : Host) (p : Path) :
    host.Climbs p (host.firstProgram ((ancestors p).map installedIn)) := by
  induction p using Path.childInduction with
  | root anchor =>
    refine climbs_cons fun hroot => .missing fun d habove => ?_
    obtain rfl := Path.above_root_iff.1 habove
    exact hroot
  | child p name ih =>
    rw [ancestors_child, List.map_cons]
    exact climbs_cons fun hchild => ih.child hchild

/-! ## The answers of a search -/

/-- The climb meets a place that cannot be looked at before it comes to a checker. -/
def Blocked (host : Host) (p : Path) : Prop :=
  ∃ (d : Path) (r : Refusal), d.Above p ∧ host.Obscured d r ∧
    ∀ e : Path, e.Above p → d.Above e → ¬ host.HasChecker e

/-- No directory at another one or above it has a checker. -/
def NoChecker (host : Host) (p : Path) : Prop :=
  ∀ d : Path, d.Above p → ¬ host.HasChecker d

/-- A search from a directory finds the nearest checker. -/
structure FindsNearest (host : Host) (p : Path) (answer : Except LocateFault (Option Path)) :
    Prop where
  /-- It finds a checker exactly if that is the nearest. -/
  found (path : Path) : answer = .ok (some path) ↔
    ∃ d, path = installedIn d ∧ p.Nearest host.HasChecker d
  /-- It finds nothing exactly if there is none. -/
  missing : answer = .ok none ↔ host.NoChecker p

/-- Without one that is set, the checker to run is the nearest one, else the one on the
    search path. -/
structure Chooses (host : Host) (start p : Path) (answer : Except LocateFault Text) :
    Prop where
  /-- What is chosen. -/
  chosen (t : Text) : answer = .ok t ↔
    (∃ d, t = (installedIn d).text ∧ p.Nearest host.HasChecker d) ∨
      (host.NoChecker p ∧ host.programFor? "flow" = some t)
  /-- There is a fault exactly if there is no checker in either place, and it names both. -/
  fault (fault : LocateFault) : answer = .error fault ↔
    fault = .notFound ["node_modules/.bin above " ++ start.text, "PATH"] ∧
      host.NoChecker p ∧ host.programFor? "flow" = none

theorem NoChecker.not_nearest (h : host.NoChecker p) : ¬ p.Nearest host.HasChecker d :=
  fun hd => h d hd.1 hd.2.1

theorem nearest_checker_of_stops (h : p.Nearest host.Stops d) (hd : host.HasChecker d) :
    p.Nearest host.HasChecker d :=
  ⟨h.1, hd, fun e he hde hchecker => h.2.2 e he hde (.inl hchecker)⟩

theorem blocked_of_nearest (h : p.Nearest host.Stops d) (hd : host.Obscured d r) :
    host.Blocked p := by
  refine ⟨d, r, h.1, hd, fun e he hde hchecker => ?_⟩
  obtain rfl := h.2.2 e he hde (.inl hchecker)
  exact hchecker.not_obscured hd

/-- A climb is blocked where it starts if the place there cannot be looked at. -/
theorem blocked_of_obscured (h : host.Obscured p r) : host.Blocked p :=
  blocked_of_nearest (Path.nearest_self (.inr ⟨r, h⟩)) h

/-- A climb that is not blocked finds the nearest checker. -/
theorem Climbs.findsNearest {answer : Except LocateFault (Option Path)}
    (h : host.Climbs p answer) (hclear : ¬ host.Blocked p) : host.FindsNearest p answer := by
  cases h with
  | found d hstops hd =>
    have hnearest := nearest_checker_of_stops hstops hd
    refine ⟨fun path => ?_, ?_⟩
    · constructor
      · intro hpath
        cases hpath
        exact ⟨d, rfl, hnearest⟩
      · rintro ⟨d', rfl, hnearest'⟩
        rw [hnearest.unique hnearest']
    · constructor
      · intro hnone
        cases hnone
      · intro hnone
        exact absurd hnearest hnone.not_nearest
  | obscured d r hstops hd => exact absurd (blocked_of_nearest hstops hd) hclear
  | missing hnone =>
    have hnone' : host.NoChecker p := fun d habove hd => hnone d habove (.inl hd)
    refine ⟨fun path => ?_, iff_of_true rfl hnone'⟩
    constructor
    · intro hpath
      cases hpath
    · rintro ⟨d, _, hnearest⟩
      exact absurd hnearest hnone'.not_nearest

/-- A climb that is blocked ends with the fault of a place that cannot be looked at. -/
theorem Climbs.eq_error {answer : Except LocateFault (Option Path)} (h : host.Climbs p answer)
    (hblocked : host.Blocked p) :
    ∃ (d : Path) (r : Refusal), d.Above p ∧ host.Obscured d r ∧
      answer = .error (obscuredFault d r) := by
  obtain ⟨e, r, he, hobscured, hnearer⟩ := hblocked
  cases h with
  | found d hstops hd =>
    obtain hde | hed := hstops.1.total he
    · obtain rfl := hstops.2.2 e he hde (.inr ⟨r, hobscured⟩)
      exact absurd hobscured hd.not_obscured
    · exact absurd hd (hnearer d hstops.1 hed)
  | obscured d r hstops hd => exact ⟨d, r, hstops.1, hd, rfl⟩
  | missing hnone => exact absurd (.inr ⟨r, hobscured⟩) (hnone e he)

theorem not_findsNearest_error {fault : LocateFault} : ¬ host.FindsNearest p (.error fault) := by
  rintro ⟨hfound, hmissing⟩
  have hnone : host.NoChecker p := by
    intro d habove hd
    obtain ⟨e, hnearest⟩ := Path.exists_nearest habove hd
    cases (hfound _).2 ⟨e, rfl, hnearest⟩
  cases hmissing.2 hnone

theorem localChecker_eq (hstart : host.realPath start = .ok p) :
    host.localChecker start = host.firstProgram ((ancestors p).map installedIn) := by
  simp only [localChecker, hstart]

theorem localChecker_of_blocked (hstart : host.realPath start = .ok p)
    (hblocked : host.Blocked p) :
    ∃ (d : Path) (r : Refusal), d.Above p ∧ host.Obscured d r ∧
      host.localChecker start = .error (obscuredFault d r) := by
  rw [localChecker_eq hstart]
  exact (host.climbs p).eq_error hblocked

/-- A search finds the nearest checker exactly if the climb is not blocked. -/
theorem findsNearest_iff (hstart : host.realPath start = .ok p) :
    host.FindsNearest p (host.localChecker start) ↔ ¬ host.Blocked p := by
  constructor
  · intro hfinds hblocked
    obtain ⟨d, r, _, _, hanswer⟩ := localChecker_of_blocked hstart hblocked
    rw [hanswer] at hfinds
    exact not_findsNearest_error hfinds
  · rw [localChecker_eq hstart]
    exact (host.climbs p).findsNearest

/-! ## The checker to run -/

section

variable {settings : Settings} {searchFrom : Option Path}

theorem checkerFor_of_set {path : Path} (hset : settings.flowBin = some path) :
    host.checkerFor settings searchFrom = .ok path.text := by
  simp only [checkerFor, hset]

variable (hset : settings.flowBin = none) (hfrom : searchFrom.getD host.cwd = start)
include hset hfrom

theorem checkerFor_of_found {path : Path} (h : host.localChecker start = .ok (some path)) :
    host.checkerFor settings searchFrom = .ok path.text := by
  simp only [checkerFor, hset, hfrom, h, bind, Except.bind]

theorem checkerFor_of_missing {t : Text} (h : host.localChecker start = .ok none)
    (hpath : host.programFor? "flow" = some t) :
    host.checkerFor settings searchFrom = .ok t := by
  simp only [checkerFor, hset, hfrom, h, bind, Except.bind, hpath]

theorem checkerFor_of_nowhere (h : host.localChecker start = .ok none)
    (hpath : host.programFor? "flow" = none) :
    host.checkerFor settings searchFrom =
      .error (.notFound ["node_modules/.bin above " ++ start.text, "PATH"]) := by
  simp only [checkerFor, hset, hfrom, h, bind, Except.bind, hpath]

theorem checkerFor_of_error {fault : LocateFault} (h : host.localChecker start = .error fault) :
    host.checkerFor settings searchFrom = .error fault := by
  simp only [checkerFor, hset, hfrom, h, bind, Except.bind]

theorem chooses_of_findsNearest (h : host.FindsNearest p (host.localChecker start)) :
    host.Chooses start p (host.checkerFor settings searchFrom) := by
  cases hanswer : host.localChecker start with
  | error fault => exact absurd (hanswer ▸ h) not_findsNearest_error
  | ok found =>
    cases found with
    | some path =>
      obtain ⟨d, rfl, hnearest⟩ := (h.found path).1 hanswer
      have hchecker : ¬ host.NoChecker p := fun hnone => hnone.not_nearest hnearest
      rw [checkerFor_of_found hset hfrom hanswer]
      refine ⟨fun t => ?_, fun fault => by simp [hchecker]⟩
      constructor
      · intro ht
        cases ht
        exact .inl ⟨d, rfl, hnearest⟩
      · rintro (⟨d', rfl, hnearest'⟩ | ⟨hnone, _⟩)
        · rw [hnearest.unique hnearest']
        · exact absurd hnone hchecker
    | none =>
      have hnone : host.NoChecker p := h.missing.1 hanswer
      have hnearest : ∀ d, ¬ p.Nearest host.HasChecker d := fun d => hnone.not_nearest
      cases hpath : host.programFor? "flow" with
      | some t =>
        rw [checkerFor_of_missing hset hfrom hanswer hpath]
        exact ⟨fun t' => by simp [hnearest, hnone, hpath], fun fault => by simp [hpath]⟩
      | none =>
        rw [checkerFor_of_nowhere hset hfrom hanswer hpath]
        refine ⟨fun t => by simp [hnearest, hpath], fun fault => ?_⟩
        simp [hnone, hpath, eq_comm]

/-- The choice is the nearest checker, else the one on the search path, exactly if the climb
    is not blocked. -/
theorem chooses_iff (hstart : host.realPath start = .ok p) :
    host.Chooses start p (host.checkerFor settings searchFrom) ↔ ¬ host.Blocked p := by
  constructor
  · intro hchooses hblocked
    obtain ⟨d, r, _, _, hanswer⟩ := localChecker_of_blocked hstart hblocked
    rw [checkerFor_of_error hset hfrom hanswer] at hchooses
    cases ((hchooses.fault _).1 rfl).1
  · intro hclear
    exact chooses_of_findsNearest hset hfrom ((findsNearest_iff hstart).2 hclear)

end

/-! ## What is farther up -/

theorem Climbs.eq_found {answer : Except LocateFault (Option Path)} (h : host.Climbs p answer)
    (hstops : p.Nearest host.Stops d) (hd : host.HasChecker d) :
    answer = .ok (some (installedIn d)) := by
  cases h with
  | found d' hstops' _ => rw [hstops'.unique hstops]
  | obscured d' r hstops' hobscured =>
    obtain rfl := hstops'.unique hstops
    exact absurd hobscured hd.not_obscured
  | missing hnone => exact absurd hstops.2.1 (hnone d hstops.1)

theorem Climbs.nearest {answer : Except LocateFault (Option Path)} (h : host.Climbs p answer)
    (hfound : answer = .ok (some (installedIn d))) :
    p.Nearest host.Stops d ∧ host.HasChecker d := by
  cases h with
  | found d' hstops hd =>
    simp only [Except.ok.injEq, Option.some.injEq] at hfound
    obtain rfl := installedIn_injective hfound
    exact ⟨hstops, hd⟩
  | obscured d' r _ _ => cases hfound
  | missing _ => cases hfound

/-- A search that found a checker finds the same one wherever the places at its directory
    and nearer are the same. -/
theorem localChecker_of_same {host' : Host} {start' : Path}
    (hstart : host.realPath start = .ok p) (hstart' : host'.realPath start' = .ok p)
    (hfound : host.localChecker start = .ok (some (installedIn d)))
    (hsame : ∀ e : Path, e.Above p → d.Above e → host'.placeIn e = host.placeIn e) :
    host'.localChecker start' = .ok (some (installedIn d)) := by
  rw [localChecker_eq hstart] at hfound
  rw [localChecker_eq hstart']
  obtain ⟨hstops, hd⟩ := (host.climbs p).nearest hfound
  refine (host'.climbs p).eq_found (hstops.congr fun e he hde => ?_) ?_
  · rw [stops_iff, stops_iff, hsame e he hde]
  · simpa only [HasChecker, hsame d hstops.1 (.refl d)] using hd

end Host

/-- **The checker that is found is the nearest one.**  Where a search starts in
    `directory`, it finds the checker installed there or in the first directory above that
    has one, and nothing if none has; this fails exactly if, before it comes to a checker,
    it meets a place that cannot be looked at, since a name is too long or a directory may
    not be entered, and then the search ends with the fault of such a place.  A checker
    that is set is run whatever the tree holds.  Without one it is
    the nearest, else the one on the search path, and the fault of its absence names both
    places.  What is installed farther up does not change what is found. -/
theorem nearest_checker_unless_blocked {host : Host} {start directory : Path}
    (hstart : host.realPath start = .ok directory) :
    (host.FindsNearest directory (host.localChecker start) ↔ ¬ host.Blocked directory) ∧
    (∀ (settings : Settings) (searchFrom : Option Path),
      (∀ path, settings.flowBin = some path →
        host.checkerFor settings searchFrom = .ok path.text) ∧
      (settings.flowBin = none → searchFrom.getD host.cwd = start →
        (host.Chooses start directory (host.checkerFor settings searchFrom) ↔
          ¬ host.Blocked directory))) ∧
    (host.Blocked directory → ∃ (d : Path) (r : Refusal), d.Above directory ∧
      host.Obscured d r ∧ host.localChecker start = .error (Host.obscuredFault d r) ∧
      ∀ (settings : Settings) (searchFrom : Option Path), settings.flowBin = none →
        searchFrom.getD host.cwd = start →
        host.checkerFor settings searchFrom = .error (Host.obscuredFault d r)) ∧
    ∀ d : Path, host.localChecker start = .ok (some (Host.installedIn d)) →
      ∀ (host' : Host) (start' : Path), host'.realPath start' = .ok directory →
        (∀ e : Path, e.Above directory → d.Above e → host'.placeIn e = host.placeIn e) →
        host'.localChecker start' = .ok (some (Host.installedIn d)) := by
  refine ⟨Host.findsNearest_iff hstart, fun settings searchFrom => ⟨fun path => ?_, ?_⟩, ?_, ?_⟩
  · exact Host.checkerFor_of_set
  · intro hset hfrom
    exact Host.chooses_iff hset hfrom hstart
  · intro hblocked
    obtain ⟨d, r, habove, hobscured, hanswer⟩ := Host.localChecker_of_blocked hstart hblocked
    refine ⟨d, r, habove, hobscured, hanswer, fun settings searchFrom hset hfrom => ?_⟩
    exact Host.checkerFor_of_error hset hfrom hanswer
  · intro d hfound host' start' hstart' hsame
    exact Host.localChecker_of_same hstart hstart' hfound hsame

/-- A checker in a directory, and something in its place in one below. -/
def shadowedHost (node : Node) : Host :=
  ⟨(FileTree.add ⟨[]⟩ ["w", "node_modules", ".bin", "flow"] (.file [] true)).add
    ["w", "app", "node_modules", ".bin", "flow"] node, .ofText "/w/app", []⟩

/-- A link to a name of 256 bytes. -/
def farLink : Node :=
  .link (List.replicate 64 (.char '𝑛'))

theorem realPath_shadowedHost (node : Node) :
    (shadowedHost node).realPath (.ofText "/w/app") = .ok (.ofText "/w/app") := by
  cbv

set_option maxRecDepth 1000 in
theorem obscured_farLink : (shadowedHost farLink).Obscured (.ofText "/w/app") .nameTooLong := by
  have hplace : (shadowedHost farLink).placeIn (.ofText "/w/app") = .error .nameTooLong := by cbv
  exact FileTree.hides_iff.2 ⟨hplace, rfl⟩

/-- The same checker, below which the modules are in a directory that may not be entered. -/
def lockedHost : Host :=
  ⟨(shadowedHost .dir).tree.insert ["w", "app", "node_modules"] .locked, .ofText "/w/app", []⟩

theorem realPath_lockedHost :
    lockedHost.realPath (.ofText "/w/app") = .ok (.ofText "/w/app") := by
  cbv

theorem obscured_lockedHost : lockedHost.Obscured (.ofText "/w/app") .denied := by
  have hplace : lockedHost.placeIn (.ofText "/w/app") = .error .denied := by cbv
  exact FileTree.hides_iff.2 ⟨hplace, rfl⟩

/-- A directory in the place of the checker does not block the climb. -/
theorem not_blocked_dir : ¬ (shadowedHost .dir).Blocked (.ofText "/w/app") := by
  have hseen : ∀ d ∈ Host.ancestors (.ofText "/w/app"), ∀ r : Refusal, r.isAbsence = false →
      (shadowedHost .dir).placeIn d ≠ .error r := by
    have hways : Host.ancestors (.ofText "/w/app") = [.ofText "/w/app", .ofText "/w", .ofText "/"] ∧
        (shadowedHost .dir).placeIn (.ofText "/w/app") = .ok .dir ∧
        (shadowedHost .dir).placeIn (.ofText "/w") = .ok (.file [] true) ∧
        (shadowedHost .dir).placeIn (.ofText "/") = .error .noEntry := by
      refine ⟨?_, ?_, ?_, ?_⟩ <;> cbv
    obtain ⟨hancestors, happ, hw, hroot⟩ := hways
    rw [hancestors]
    simp only [List.forall_mem_cons, happ, hw, hroot]
    refine ⟨fun r _ h => ?_, fun r _ h => ?_, fun r hr h => ?_, by simp⟩
    · cases h
    · cases h
    · cases h
      cases hr
  rintro ⟨d, r, habove, hobscured, _⟩
  obtain ⟨hplace, hr⟩ := FileTree.hides_iff.1 hobscured
  exact hseen d (Host.mem_ancestors_iff.2 habove) r hr hplace

theorem nearest_shadowedHost :
    ((shadowedHost farLink).realPath (.ofText "/w/app") = .ok (.ofText "/w/app") ∧
      ¬ (shadowedHost farLink).FindsNearest (.ofText "/w/app")
        ((shadowedHost farLink).localChecker (.ofText "/w/app"))) ∧
    (lockedHost.realPath (.ofText "/w/app") = .ok (.ofText "/w/app") ∧
      ¬ lockedHost.FindsNearest (.ofText "/w/app") (lockedHost.localChecker (.ofText "/w/app"))) ∧
    (shadowedHost .dir).realPath (.ofText "/w/app") = .ok (.ofText "/w/app") ∧
      (shadowedHost .dir).FindsNearest (.ofText "/w/app")
        ((shadowedHost .dir).localChecker (.ofText "/w/app")) := by
  refine ⟨⟨realPath_shadowedHost _, fun hfinds => ?_⟩,
    ⟨realPath_lockedHost, fun hfinds => ?_⟩, realPath_shadowedHost _, ?_⟩
  · exact (nearest_checker_unless_blocked (realPath_shadowedHost _)).1.1 hfinds
      (Host.blocked_of_obscured obscured_farLink)
  · exact (nearest_checker_unless_blocked realPath_lockedHost).1.1 hfinds
      (Host.blocked_of_obscured obscured_lockedHost)
  · exact (nearest_checker_unless_blocked (realPath_shadowedHost _)).1.2 not_blocked_dir

end FlowLens
