/-
  Where a message in another file is said to stand.

  * `Text.FirstAt` and `Text.removeFirst_of_firstAt`: the first occurrence of the root is
    cut out of a path, and nothing else;
  * `intText_injective` and `Text.append_colon_inj`: the line behind the last colon can be
    read back;
  * `seeAlso_of_not_inLibrary` and `seeAlso_of_inLibrary`: what is said of a file of the
    project, and of one of the checker;
  * `Message.Below`: a message in a file below the root, and `Message.Reported`: one that the
    checker reports, whose line can be written.
-/
import FlowLens.Proofs.Spelling
import FlowLens.Proofs.Telling
import FlowLens.Report.Reference
import Mathlib

namespace FlowLens

/-! ## Texts -/

namespace Text

variable {part front behind t u u' v v' : Text} {a b c : CodePoint}

/-- Where a part occurs in a text for the first time: what stands before and behind it. -/
structure FirstAt (part front behind t : Text) : Prop where
  /-- It occurs there. -/
  eq : t = front ++ (part ++ behind)
  /-- It does not occur before. -/
  first : ∀ front' behind', t = front' ++ (part ++ behind') → front.length ≤ front'.length

theorem firstAt_start (part behind : Text) : FirstAt part [] behind (part ++ behind) :=
  ⟨rfl, fun _ _ _ => Nat.zero_le _⟩

theorem FirstAt.cons (h : FirstAt part front behind t) (hc : ¬ part <+: c :: t) :
    FirstAt part (c :: front) behind (c :: t) := by
  refine ⟨by rw [h.eq, List.cons_append], fun front' behind' heq => ?_⟩
  cases front' with
  | nil => exact absurd ⟨behind', heq.symm⟩ hc
  | cons d front' =>
    have ht := (List.cons.inj heq).2
    exact Nat.succ_le_succ (h.first front' behind' ht)

theorem exists_firstAt (h : part <:+: t) : ∃ front behind, FirstAt part front behind t := by
  induction t with
  | nil =>
    obtain rfl := List.infix_nil.1 h
    exact ⟨[], [], firstAt_start [] []⟩
  | cons c t ih =>
    by_cases hc : part <+: c :: t
    · obtain ⟨behind, hbehind⟩ := hc
      exact ⟨[], behind, hbehind ▸ firstAt_start part behind⟩
    · obtain ⟨front, behind, hfirst⟩ := ih ((List.infix_cons_iff.1 h).resolve_left hc)
      exact ⟨c :: front, behind, hfirst.cons hc⟩

/-- There is one first occurrence. -/
theorem FirstAt.unique (h : FirstAt part front behind t) (h' : FirstAt part u v t) :
    front = u ∧ behind = v := by
  have hlength : front.length = u.length :=
    Nat.le_antisymm (h.first u v h'.eq) (h'.first front behind h.eq)
  obtain ⟨hfront, hrest⟩ := List.append_inj (h.eq.symm.trans h'.eq) hlength
  exact ⟨hfront, List.append_cancel_left hrest⟩

theorem removeFirst_of_not_infix (h : ¬ part <:+: t) : removeFirst part t = t := by
  induction t with
  | nil => rfl
  | cons c t ih =>
    rw [List.infix_cons_iff, not_or, ← List.isPrefixOf_iff_prefix] at h
    rw [removeFirst, if_neg h.1, ih h.2]

theorem removeFirst_of_firstAt (h : FirstAt part front behind t) :
    removeFirst part t = front ++ behind := by
  induction t generalizing front behind with
  | nil =>
    have hnil := h.eq
    simp_all [removeFirst]
  | cons c t ih =>
    unfold removeFirst
    split_ifs with hc
    · -- the part stands at the front, and nothing comes before that
      rw [List.isPrefixOf_iff_prefix] at hc
      obtain ⟨rest, hrest⟩ := hc
      obtain ⟨rfl, rfl⟩ := h.unique (hrest ▸ firstAt_start part rest)
      rw [← hrest, List.drop_left, List.nil_append]
    · rw [List.isPrefixOf_iff_prefix] at hc
      have hinfix : part <:+: c :: t := ⟨front, behind, by rw [h.eq, List.append_assoc]⟩
      obtain ⟨front', behind', hfirst⟩ :=
        exists_firstAt ((List.infix_cons_iff.1 hinfix).resolve_left hc)
      obtain ⟨rfl, rfl⟩ := h.unique (hfirst.cons hc)
      rw [ih hfirst, List.cons_append]

theorem length_removeFirst (h : part <:+: t) :
    (removeFirst part t).length + part.length = t.length := by
  obtain ⟨front, behind, hfirst⟩ := exists_firstAt h
  rw [removeFirst_of_firstAt hfirst, hfirst.eq]
  simp only [List.length_append]
  omega

theorem not_mem_replaceAll (h : a ≠ b) (t : Text) : a ∉ t.replaceAll a b := by
  intro hmem
  obtain ⟨c, -, hc⟩ := List.mem_map.1 hmem
  split_ifs at hc with hca
  · exact h hc.symm
  · exact hca hc

theorem replaceAll_of_not_mem (h : a ∉ t) : t.replaceAll a b = t := by
  refine (List.map_congr_left fun c hc => if_neg ?_).trans (List.map_id' t)
  rintro rfl
  exact h hc

/-- A text is cut at its last colon in one way only. -/
theorem append_colon_inj (hv : .char ':' ∉ v) (hv' : .char ':' ∉ v')
    (h : u ++ .char ':' :: v = u' ++ .char ':' :: v') : u = u' ∧ v = v' := by
  rcases List.append_eq_append_iff.1 h with ⟨as, hu, hrest⟩ | ⟨as, hu, hrest⟩
  · cases as with
    | nil => exact ⟨by simpa using hu.symm, (List.cons.inj hrest).2⟩
    | cons c as =>
      have hmem : .char ':' ∈ v := by
        rw [(List.cons.inj hrest).2]
        exact List.mem_append_right as (List.mem_cons_self ..)
      exact absurd hmem hv
  · cases as with
    | nil => exact ⟨by simpa using hu, (List.cons.inj hrest).2.symm⟩
    | cons c as =>
      have hmem : .char ':' ∈ v' := by
        rw [(List.cons.inj hrest).2]
        exact List.mem_append_right as (List.mem_cons_self ..)
      exact absurd hmem hv'

end Text

/-! ## Integers -/

theorem exists_digit_of_mem_natText {n : Nat} {c : CodePoint} (h : c ∈ natText n) :
    ∃ d : Char, d.isDigit = true ∧ c = .char d := by
  obtain ⟨d, hd, rfl⟩ := List.mem_map.1 h
  exact ⟨d, Nat.isDigit_of_mem_toDigits (by decide) (by decide) hd, rfl⟩

theorem natText_injective : Function.Injective natText := by
  intro n n' h
  have hchar : Function.Injective CodePoint.char := fun _ _ h => CodePoint.char.inj h
  have hdigits : Nat.toDigits 10 n = Nat.toDigits 10 n' := List.map_injective_iff.2 hchar h
  calc
    n = Nat.ofDigitChars 10 (Nat.toDigits 10 n) 0 := Nat.ofDigitChars_ten_toDigits.symm
    _ = Nat.ofDigitChars 10 (Nat.toDigits 10 n') 0 := by rw [hdigits]
    _ = n' := Nat.ofDigitChars_ten_toDigits

theorem minus_not_mem_natText (n : Nat) : .char '-' ∉ natText n := by
  intro h
  obtain ⟨d, hd, heq⟩ := exists_digit_of_mem_natText h
  cases heq
  exact absurd hd (by decide)

theorem intText_injective : Function.Injective intText := by
  intro n n' h
  unfold intText at h
  split_ifs at h with hn hn' hn'
  · have := natText_injective (List.cons.inj h).2
    omega
  · exact absurd (h ▸ List.mem_cons_self ..) (minus_not_mem_natText n'.natAbs)
  · exact absurd (h ▸ List.mem_cons_self ..) (minus_not_mem_natText n.natAbs)
  · have := natText_injective h
    omega

/-- An integer is written with digits and a minus sign. -/
theorem not_mem_intText {c : Char} (hdigit : c.isDigit = false) (hminus : c ≠ '-') (n : Int) :
    .char c ∉ intText n := by
  have hnat : .char c ∉ natText n.natAbs := by
    intro h
    obtain ⟨d, hd, heq⟩ := exists_digit_of_mem_natText h
    cases heq
    rw [hdigit] at hd
    cases hd
  unfold intText
  split_ifs
  · simp [hminus, hnat]
  · exact hnat

theorem eq_intText_of_bounded {n : Int} {line : Text} (h : boundedIntText n = .ok line) :
    line = intText n := by
  unfold boundedIntText at h
  split_ifs at h
  exact (Except.ok.inj h).symm

/-! ## What is said -/

/-- The end of a path has no backslash, since that divides its components. -/
theorem backslash_not_mem_fileName (t : Text) : .char '\\' ∉ fileName t := by
  unfold fileName
  dsimp only
  generalize hpieces : Text.components FileName.isBackslash _ = pieces
  cases hlast : pieces.getLast? with
  | none => simp
  | some name =>
    have hmem := List.mem_of_getLast? hlast
    rw [← hpieces, Text.components, List.mem_filter] at hmem
    intro hname
    have hsep := Text.not_separator_of_mem_splitBy hmem.1 _ hname
    simp [FileName.isBackslash] at hsep

/-- A path as it is shown, and a line in it. -/
def Text.shown (path line : Text) : Text :=
  .char '.' :: (path.replaceAll (.char '\\') (.char '/') ++ .char ':' :: line)

/-- A message in a library that comes with the checker. -/
def Message.InLibrary (m : Message) : Prop :=
  ∃ place, m.place = some place ∧ place.isLibrary = true

/-- A message in a file of the project, at `rel` below the root. -/
structure Message.Below (m : Message) (root rel : Text) : Prop where
  /-- It is in no library. -/
  not_inLibrary : ¬ m.InLibrary
  /-- A slash or a backslash stands between the root and the rest. -/
  path : m.path = root ++ .char '/' :: rel ∨ m.path = root ++ .char '\\' :: rel

/-- A message that an output of the checker refers to. -/
def Message.Reported (m : Message) : Prop :=
  ∃ stdout r document, decode stdout = .ok (.report r document) ∧
    ∃ e ∈ r.entries, m ∈ e.references

section
variable {root root' rel rel' version version' t : Text} {m m' : Message}

theorem Message.Reported.boundedIntText_line (h : m.Reported) :
    boundedIntText m.line = .ok (intText m.line) := by
  obtain ⟨stdout, r, document, hdecode, e, he, hm⟩ := h
  exact boundedIntText_of_fewDigits (fewDigits_of_decode hdecode e he m hm)

theorem Message.inLibrary_iff : m.InLibrary ↔ m.place.any (·.isLibrary) = true := by
  unfold InLibrary
  cases m.place <;> simp

theorem seeAlso_of_not_inLibrary (h : ¬ m.InLibrary) :
    seeAlso root version m =
      (boundedIntText m.line).map (Text.shown (Text.removeFirst root m.path)) := by
  rw [Message.inLibrary_iff] at h
  simp only [seeAlso, if_neg h]
  cases boundedIntText m.line <;> rfl

theorem seeAlso_of_inLibrary (h : m.InLibrary) :
    seeAlso root version m = (boundedIntText m.line).map fun line =>
      "https://github.com/facebook/flow/blob/v" ++ version ++ "/lib/" ++ fileName m.path ++
        "#L" ++ line := by
  rw [Message.inLibrary_iff] at h
  simp only [seeAlso, if_pos h]
  cases boundedIntText m.line <;> rfl

theorem map_eq_ok_iff {ε α β : Type} {f : α → β} {x : Except ε α} {b : β} :
    x.map f = .ok b ↔ ∃ a, x = .ok a ∧ f a = b := by
  cases x <;> simp [Except.map]

theorem backslash_not_mem_shown (path : Text) (n : Int) : .char '\\' ∉ path.shown (intText n) := by
  have hpath := Text.not_mem_replaceAll (a := .char '\\') (b := .char '/') (by decide) path
  have hline := not_mem_intText (c := '\\') (by decide) (by decide) n
  simp [Text.shown, hpath, hline]

theorem backslash_mem_seeAlso_iff (h : seeAlso root version m = .ok t) :
    .char '\\' ∈ t ↔ m.InLibrary ∧ .char '\\' ∈ version := by
  by_cases hlibrary : m.InLibrary
  · rw [seeAlso_of_inLibrary hlibrary, map_eq_ok_iff] at h
    obtain ⟨line, hline, rfl⟩ := h
    obtain rfl := eq_intText_of_bounded hline
    have hname := backslash_not_mem_fileName m.path
    have hnumber := not_mem_intText (c := '\\') (by decide) (by decide) m.line
    have hwords : .char '\\' ∉ Text.ofString "https://github.com/facebook/flow/blob/v" ∧
        .char '\\' ∉ Text.ofString "/lib/" ∧ .char '\\' ∉ Text.ofString "#L" := by decide
    simp only [List.mem_append, hname, hnumber, hwords, hlibrary, or_false, false_or, true_and]
  · rw [seeAlso_of_not_inLibrary hlibrary, map_eq_ok_iff] at h
    obtain ⟨line, hline, rfl⟩ := h
    obtain rfl := eq_intText_of_bounded hline
    exact iff_of_false (backslash_not_mem_shown _ _) fun h => hlibrary h.1

theorem seeAlso_of_below (h : m.Below root rel) :
    seeAlso root version m = (boundedIntText m.line).map (Text.shown (.char '/' :: rel)) := by
  rw [seeAlso_of_not_inLibrary h.not_inLibrary]
  rcases h.path with hpath | hpath
  · rw [hpath, Text.removeFirst_of_firstAt (Text.firstAt_start root _), List.nil_append]
  · rw [hpath, Text.removeFirst_of_firstAt (Text.firstAt_start root _), List.nil_append]
    rfl

/-- What is said of two files below their roots differs unless the rest of their paths and
    the lines are the same. -/
theorem eq_of_seeAlso_eq (h : m.Below root rel) (h' : m'.Below root' rel')
    (hrel : .char '\\' ∉ rel) (hrel' : .char '\\' ∉ rel')
    (ht : seeAlso root version m = .ok t) (ht' : seeAlso root' version' m' = .ok t) :
    rel = rel' ∧ m.line = m'.line := by
  rw [seeAlso_of_below h, map_eq_ok_iff] at ht
  rw [seeAlso_of_below h', map_eq_ok_iff] at ht'
  obtain ⟨line, hline, rfl⟩ := ht
  obtain ⟨line', hline', heq⟩ := ht'
  obtain rfl := eq_intText_of_bounded hline
  obtain rfl := eq_intText_of_bounded hline'
  have hcolon : ∀ n, .char ':' ∉ intText n := not_mem_intText (by decide) (by decide)
  have hslash : ∀ r : Text, .char '\\' ∉ r → .char '\\' ∉ CodePoint.char '/' :: r := by simp
  have hcut := Text.append_colon_inj (hcolon _) (hcolon _) (List.cons.inj heq).2
  rw [Text.replaceAll_of_not_mem (hslash _ hrel), Text.replaceAll_of_not_mem (hslash _ hrel'),
    List.cons.injEq] at hcut
  exact ⟨hcut.1.2.symm, (intText_injective hcut.2).symm⟩

end

/-- **A file below the root is named by the rest of its path.**  Of a message in such a file
    the rest of the path is said, with slashes, and the line, wherever else the root occurs;
    every line that the checker reports can be written.  There is no backslash in what is said,
    unless of a library and from its version, and if the rests have none either, then what
    is said tells both the rest and the line. -/
theorem seeAlso_below_root :
    (∀ (root rel version : Text) (m : Message), m.Below root rel →
      seeAlso root version m = (boundedIntText m.line).map fun line =>
        "./" ++ rel.replaceAll (.char '\\') (.char '/') ++ ":" ++ line) ∧
    (∀ m : Message, m.Reported → boundedIntText m.line = .ok (intText m.line)) ∧
    (∀ (root version t : Text) (m : Message), seeAlso root version m = .ok t →
      (.char '\\' ∈ t ↔ m.InLibrary ∧ .char '\\' ∈ version)) ∧
    ∀ (root root' rel rel' version version' t : Text) (m m' : Message),
      m.Below root rel → m'.Below root' rel' → .char '\\' ∉ rel → .char '\\' ∉ rel' →
      seeAlso root version m = .ok t → seeAlso root' version' m' = .ok t →
        rel = rel' ∧ m.line = m'.line := by
  refine ⟨fun root rel version m h => ?_, fun m h => h.boundedIntText_line,
    fun root version t m h => backslash_mem_seeAlso_iff h, ?_⟩
  · rw [seeAlso_of_below h]
    cases boundedIntText m.line with
    | error cause => rfl
    | ok line => simp [Except.map, Text.shown, Text.replaceAll, Text.ofString]
  · intro root root' rel rel' version version' t m m' h h' hrel hrel' ht ht'
    exact eq_of_seeAlso_eq h h' hrel hrel' ht ht'

/-- A message on the first line of a file. -/
def messageAt (path : Text) : Message :=
  ⟨path, [], none, 1, 1, none⟩

theorem not_inLibrary_messageAt (path : Text) : ¬ (messageAt path).InLibrary := by
  rintro ⟨place, hplace, -⟩
  cases hplace

theorem boundedIntText_messageAt (path : Text) :
    boundedIntText (messageAt path).line = .ok "1" :=
  boundedIntText_of_fewDigits (n := 1) (fewDigits_of_lt (by decide))

theorem reported_reference : Message.Reported ⟨[], "[1]", some "Blame", 5, 0, none⟩ := by
  refine ⟨_, _, _, decode_sampleOutput, sampleEntry, List.mem_singleton_self _, ?_⟩
  simp [Entry.references, sampleEntry]

/-- The rest of a path may hold the root again, a colon and a number. -/
theorem seeAlso_messageAt_below :
    ((messageAt "/p/a/p:3").Below "/p" "a/p:3" ∧
      seeAlso "/p" "1" (messageAt "/p/a/p:3") = .ok "./a/p:3:1") ∧
    ((messageAt "\\p\\a/p:3").Below "\\p" "a/p:3" ∧
      seeAlso "\\p" "1" (messageAt "\\p\\a/p:3") = .ok "./a/p:3:1") ∧
    CodePoint.char '\\' ∉ Text.ofString "a/p:3" ∧
      (messageAt "/p/a/p:3").line = (messageAt "\\p\\a/p:3").line ∧
    boundedIntText 5 = .ok "5" := by
  have hslash : (messageAt "/p/a/p:3").Below "/p" "a/p:3" :=
    ⟨not_inLibrary_messageAt _, Or.inl rfl⟩
  have hbackslash : (messageAt "\\p\\a/p:3").Below "\\p" "a/p:3" :=
    ⟨not_inLibrary_messageAt _, Or.inr rfl⟩
  have hrel : CodePoint.char '\\' ∉ Text.ofString "a/p:3" := by decide
  have hsaid : seeAlso "/p" "1" (messageAt "/p/a/p:3") = .ok "./a/p:3:1" := by
    rw [seeAlso_below_root.1 _ _ _ _ hslash, boundedIntText_messageAt]
    rfl
  have hsaid' : seeAlso "\\p" "1" (messageAt "\\p\\a/p:3") = .ok "./a/p:3:1" := by
    rw [seeAlso_below_root.1 _ _ _ _ hbackslash, boundedIntText_messageAt]
    rfl
  obtain ⟨-, hline⟩ :=
    seeAlso_below_root.2.2.2 _ _ _ _ _ _ _ _ _ hslash hbackslash hrel hrel hsaid hsaid'
  exact ⟨⟨hslash, hsaid⟩, ⟨hbackslash, hsaid'⟩, hrel, hline,
    seeAlso_below_root.2.1 _ reported_reference⟩

/-- **Nothing but the first occurrence of the root is left out.**  Of a message in no library
    the whole path is said, with slashes, and the line, if the root does not occur in it;
    otherwise the path without the first occurrence, be it the root itself, the start of a
    longer name or a name farther down.  So the whole path is said exactly if the root
    does not occur.  Every line that the checker reports can be written. -/
theorem seeAlso_cuts_root (root version : Text) (m : Message) (hroot : root ≠ [])
    (hsource : ¬ m.InLibrary) :
    (¬ root <:+: m.path →
      seeAlso root version m = (boundedIntText m.line).map m.path.shown) ∧
    (root <:+: m.path → ∃ front behind, Text.FirstAt root front behind m.path ∧
      seeAlso root version m = (boundedIntText m.line).map (front ++ behind).shown) ∧
    (∀ t, seeAlso root version m = .ok t →
      (t = m.path.shown (intText m.line) ↔ ¬ root <:+: m.path)) ∧
    (m.Reported → boundedIntText m.line = .ok (intText m.line)) := by
  rw [seeAlso_of_not_inLibrary hsource]
  refine ⟨fun h => ?_, fun h => ?_, fun t ht => ?_, fun h => h.boundedIntText_line⟩
  · rw [Text.removeFirst_of_not_infix h]
  · obtain ⟨front, behind, hfirst⟩ := Text.exists_firstAt h
    exact ⟨front, behind, hfirst, by rw [Text.removeFirst_of_firstAt hfirst]⟩
  · obtain ⟨line, hline, rfl⟩ := map_eq_ok_iff.1 ht
    obtain rfl := eq_intText_of_bounded hline
    constructor
    · intro heq hinfix
      -- what is said is as long as the path, so nothing was cut out
      have hlength := congrArg List.length heq
      simp only [Text.shown, Text.replaceAll, List.length_cons, List.length_append,
        List.length_map] at hlength
      have hcut := Text.length_removeFirst hinfix
      have hpos := List.length_pos_of_ne_nil hroot
      omega
    · intro h
      rw [Text.removeFirst_of_not_infix h]

/-- A file outside the root is said by its whole path, and one whose path holds the root
    farther down without that. -/
theorem seeAlso_messageAt_outside :
    Text.ofString "/p" ≠ [] ∧
    (¬ (messageAt "/q/a").InLibrary ∧ ¬ Text.ofString "/p" <:+: "/q/a" ∧
      seeAlso "/p" "1" (messageAt "/q/a") = .ok "./q/a:1") ∧
    ¬ (messageAt "/q/p/a").InLibrary ∧ Text.ofString "/p" <:+: "/q/p/a" ∧
      ∃ front behind, Text.FirstAt "/p" front behind "/q/p/a" ∧
        seeAlso "/p" "1" (messageAt "/q/p/a") = .ok ((front ++ behind).shown "1") := by
  have hroot : Text.ofString "/p" ≠ [] := List.cons_ne_nil _ _
  have hoff : ¬ Text.ofString "/p" <:+: "/q/a" := by decide
  have hon : Text.ofString "/p" <:+: "/q/p/a" := by decide
  refine ⟨hroot, ⟨not_inLibrary_messageAt _, hoff, ?_⟩, not_inLibrary_messageAt _, hon, ?_⟩
  · rw [(seeAlso_cuts_root _ _ _ hroot (not_inLibrary_messageAt "/q/a")).1 hoff,
      boundedIntText_messageAt]
    rfl
  · obtain ⟨front, behind, hfirst, hsaid⟩ :=
      (seeAlso_cuts_root "/p" "1" _ hroot (not_inLibrary_messageAt "/q/p/a")).2.1 hon
    rw [boundedIntText_messageAt] at hsaid
    exact ⟨front, behind, hfirst, hsaid⟩

/-- A file beside the root whose name goes on where that of the root ends is neither the
    root nor below it, and yet the whole path is not said. -/
theorem seeAlso_sibling :
    Text.ofString "/p" ≠ [] ∧ (Text.ofString "/p").getLast? = some (.char 'p') ∧
      ¬ (messageAt "/p2/a").InLibrary ∧ (messageAt "/p2/a").path ≠ "/p" ∧
      (∀ rel, ¬ (messageAt "/p2/a").Below "/p" rel) ∧
      seeAlso "/p" "1" (messageAt "/p2/a") = .ok ".2/a:1" ∧
      seeAlso "/p" "1" (messageAt "/p2/a") ≠ .ok ((messageAt "/p2/a").path.shown "1") := by
  have hsaid : seeAlso "/p" "1" (messageAt "/p2/a") = .ok ".2/a:1" := by
    rw [seeAlso_of_not_inLibrary (not_inLibrary_messageAt _), boundedIntText_messageAt]
    rfl
  refine ⟨List.cons_ne_nil _ _, rfl, not_inLibrary_messageAt _, by decide, ?_, hsaid, ?_⟩
  · rintro rel ⟨-, hpath | hpath⟩ <;> simp [messageAt, Text.ofString] at hpath
  · rw [hsaid]
    decide

end FlowLens
