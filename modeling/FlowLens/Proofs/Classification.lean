/-
  The rule that a message falls under is decided by its ASCII characters alone.

  * `Text.Settled`: a word that no code point beyond ASCII has a part in, whatever it is
    lowered to;
  * `Text.infix_lower_iff`: such a word occurs in the lower-case form of a text exactly
    if it occurs in the text with the letters from A to Z lowered;
  * `Rule.ofMessage_eq_iff`: what this comes to for the message about a missing
    annotation.
-/
import FlowLens.Proofs.LowerCase
import FlowLens.Proofs.Telling
import FlowLens.Report.Rule
import Mathlib

namespace FlowLens

/-! ## Words in a lower-case form -/

namespace Text

open CodePoint

variable {w t before after : Text} {c d : CodePoint}

/-- A word of ASCII without `k`, which the Kelvin sign is lowered to.  The dotted capital I
    is lowered to `i` and a dot, so the word may have an `i`, but not at its end. -/
structure Settled (w : Text) : Prop where
  /-- No letter of it is made of one beyond ASCII alone. -/
  letters : ∀ c ∈ w, c.val < 128 ∧ c ≠ .char 'k'
  /-- It does not break off where the dot would follow. -/
  ending : w.getLast? ≠ some (.char 'i')

theorem Settled.tail (h : Settled (d :: w)) : Settled w := by
  refine ⟨fun c hc => h.letters c (List.mem_cons_of_mem d hc), ?_⟩
  cases w with
  | nil => simp
  | cons e w =>
    have hending := h.ending
    rwa [List.getLast?_cons_cons] at hending

/-- A code point beyond ASCII, or `k`, begins no settled word. -/
theorem Settled.not_cons (h : Settled (d :: w)) (hd : 128 ≤ d.val ∨ d = .char 'k') : False := by
  obtain ⟨hascii, hk⟩ := h.letters d (List.mem_cons_self ..)
  rcases hd with hbeyond | rfl
  · omega
  · exact hk rfl

/-- What a code point beyond ASCII is lowered to. -/
theorem lowerUnit_beyond_cases (hc : 128 ≤ c.val) (before after : Text) :
    (∃ d, lowerUnit before after c = [d] ∧ (128 ≤ d.val ∨ d = .char 'k')) ∨
      lowerUnit before after c = [.char 'i', .char '\u0307'] := by
  unfold lowerUnit
  split_ifs
  · exact Or.inr rfl
  · exact Or.inl ⟨.char 'ς', rfl, Or.inl (by decide)⟩
  · exact Or.inl ⟨c.simpleLower, rfl, simpleLower_beyond hc⟩

/-- No settled word begins with what a code point beyond ASCII is lowered to. -/
theorem Settled.not_prefix_of_beyond (h : Settled (d :: w)) (hc : 128 ≤ c.val) (rest : Text) :
    ¬ d :: w <+: lowerUnit before after c ++ rest := by
  rcases lowerUnit_beyond_cases hc before after with ⟨e, hunit, he⟩ | hunit
  · rw [hunit, List.singleton_append, List.cons_prefix_cons]
    rintro ⟨rfl, -⟩
    exact h.not_cons he
  · rw [hunit, List.cons_append, List.singleton_append, List.cons_prefix_cons]
    rintro ⟨rfl, hw⟩
    -- the word goes on behind the `i`, where the dot stands
    cases w with
    | nil => exact h.ending rfl
    | cons e w =>
      obtain ⟨rfl, -⟩ := List.cons_prefix_cons.1 hw
      exact h.tail.not_cons (Or.inl (by decide))

theorem prefix_lowerAfter_iff (hw : w.Settled) (before : Text) :
    w <+: lowerAfter before t ↔ w <+: t.map asciiLower := by
  induction t generalizing w before with
  | nil => rfl
  | cons c t ih =>
    cases w with
    | nil => simp
    | cons d w =>
      rw [lowerAfter, List.map_cons]
      by_cases hc : c.val < 128
      · rw [lowerUnit_of_ascii hc, List.singleton_append, List.cons_prefix_cons,
          List.cons_prefix_cons, ih hw.tail]
      · rw [not_lt] at hc
        refine iff_of_false (hw.not_prefix_of_beyond hc _) ?_
        rw [asciiLower_beyond hc, List.cons_prefix_cons]
        rintro ⟨rfl, -⟩
        exact hw.not_cons (Or.inl hc)

/-- A settled word in a lower-case form begins with what a code point is lowered to: never
    with the dot of the dotted capital I. -/
theorem infix_lowerAfter_cons_iff (hw : w.Settled) :
    w <:+: lowerAfter before (c :: t) ↔
      w <+: lowerAfter before (c :: t) ∨ w <:+: lowerAfter (c :: before) t := by
  have hone : ∀ d, lowerUnit before t c = [d] → (w <:+: lowerAfter before (c :: t) ↔
      w <+: lowerAfter before (c :: t) ∨ w <:+: lowerAfter (c :: before) t) := by
    intro d hunit
    rw [lowerAfter, hunit, List.singleton_append, List.infix_cons_iff]
  by_cases hc : c.val < 128
  · exact hone _ (lowerUnit_of_ascii hc)
  · rcases lowerUnit_beyond_cases (not_lt.1 hc) before t with ⟨d, hunit, -⟩ | hunit
    · exact hone d hunit
    · rw [lowerAfter, hunit, List.cons_append, List.singleton_append, List.infix_cons_iff,
        List.infix_cons_iff]
      refine or_congr_right ⟨?_, Or.inr⟩
      rintro (hdot | hrest)
      · cases w with
        | nil => exact List.nil_infix
        | cons e w =>
          obtain ⟨rfl, -⟩ := List.cons_prefix_cons.1 hdot
          exact (hw.not_cons (Or.inl (by decide))).elim
      · exact hrest

theorem infix_lowerAfter_iff (hw : w.Settled) (before : Text) :
    w <:+: lowerAfter before t ↔ w <:+: t.map asciiLower := by
  induction t generalizing before with
  | nil => rfl
  | cons c t ih =>
    rw [infix_lowerAfter_cons_iff hw, prefix_lowerAfter_iff hw, ih, List.map_cons,
      ← List.infix_cons_iff]

/-- **Only the case of letters from A to Z** matters to where a settled word occurs, and not
    what stands around it. -/
theorem infix_lower_iff (hw : w.Settled) : w <:+: t.lower ↔ w <:+: t.map asciiLower :=
  infix_lowerAfter_iff hw []

/-- A code point of ASCII, or nothing. -/
def ascii? (c : CodePoint) : Option CodePoint :=
  if c.val < 128 then some c else none

theorem eq_of_map_ascii?_eq {s : Text} (hs : ∀ c ∈ s, c.val < 128)
    (h : t.map ascii? = s.map ascii?) : t = s := by
  induction s generalizing t with
  | nil => simpa using h
  | cons c s ih =>
    obtain ⟨hc, hs⟩ := List.forall_mem_cons.1 hs
    cases t with
    | nil => simp at h
    | cons d t =>
      simp only [List.map_cons, List.cons.injEq, ascii?, if_pos hc] at h
      obtain ⟨hd, ht⟩ := h
      split_ifs at hd
      rw [Option.some.inj hd, ih hs ht]

end Text

/-! ## The message about a missing annotation -/

namespace Rule

open CodePoint

variable {s s' : Text}

/-- The words that tell a missing annotation, in letters of either case. -/
def IsPhrase (part : Text) : Prop :=
  part.length = 23 ∧ part.map asciiLower = "missing type annotation"

theorem IsPhrase.ascii {part : Text} (h : IsPhrase part) : ∀ c ∈ part, c.val < 128 := by
  intro c hc
  by_contra hbeyond
  rw [not_lt] at hbeyond
  have hmem : c ∈ part.map asciiLower := Text.mem_map_asciiLower_of_beyond hbeyond hc
  rw [h.2] at hmem
  have hphrase : ∀ d ∈ Text.ofString "missing type annotation", d.val < 128 := by decide
  exact absurd (hphrase c hmem) (not_lt.2 hbeyond)

theorem settled_phrase : Text.Settled "missing type annotation" :=
  ⟨by decide, by decide⟩

theorem ofMessage_eq_iff :
    ofMessage s = missingAnnotation ↔ ∃ part, part <:+: s ∧ IsPhrase part := by
  have hhas : ofMessage s = missingAnnotation ↔
      Text.has "missing type annotation" s.lower = true := by
    unfold ofMessage
    split_ifs with h
    · exact iff_of_true rfl h
    · exact iff_of_false (by decide) h
  rw [hhas, Text.has_iff, Text.infix_lower_iff settled_phrase, List.infix_map_iff]
  refine exists_congr fun part => and_congr_right fun _ => ?_
  constructor
  · intro h
    have hlength := congrArg List.length h
    rw [List.length_map] at hlength
    exact ⟨hlength.symm, h.symm⟩
  · intro h
    exact h.2.symm

/-- A phrase stays in a text that has the same code points of ASCII at the same places. -/
theorem exists_phrase_of_map_ascii? (hsame : s.map Text.ascii? = s'.map Text.ascii?)
    (h : ∃ part, part <:+: s ∧ IsPhrase part) : ∃ part, part <:+: s' ∧ IsPhrase part := by
  obtain ⟨part, hpart, hphrase⟩ := h
  have hmapped := hpart.map Text.ascii?
  rw [hsame, List.infix_map_iff] at hmapped
  obtain ⟨part', hpart', heq⟩ := hmapped
  rw [Text.eq_of_map_ascii?_eq hphrase.ascii heq.symm] at hpart'
  exact ⟨part, hpart', hphrase⟩

theorem eq_of_missingAnnotation_iff {r r' : Rule}
    (h : r = missingAnnotation ↔ r' = missingAnnotation) : r = r' := by
  cases r <;> cases r' <;> simp_all

theorem label_eq_iff {r : Rule} :
    (r.label = "missing-annotation" ↔ r = missingAnnotation) ∧
      (r.label = "default" ↔ r ≠ missingAnnotation) := by
  cases r <;> decide

/-- **A rule is decided by the letters of ASCII.**  A message falls under the rule for missing
    annotations exactly if 23 code points of it in a row are the words for that when the
    letters from A to Z are lowered; any other falls under the general rule.  All code
    points beyond ASCII are alike to this, and what is put around a message that has the
    words does not hide them. -/
theorem ofMessage_by_ascii :
    (∀ s : Text, (ofMessage s).label = "missing-annotation" ↔
      ∃ before part after, s = before ++ part ++ after ∧ part.length = 23 ∧
        part.map asciiLower = "missing type annotation") ∧
    (∀ s : Text, (ofMessage s).label = "default" ↔
      (ofMessage s).label ≠ "missing-annotation") ∧
    (∀ s s' : Text, s.map Text.ascii? = s'.map Text.ascii? →
      (ofMessage s).label = (ofMessage s').label) ∧
    ∀ before s after : Text, (ofMessage s).label = "missing-annotation" →
      (ofMessage (before ++ s ++ after)).label = "missing-annotation" := by
  refine ⟨fun s => ?_, fun s => ?_, fun s s' hsame => ?_, fun before s after h => ?_⟩
  · rw [label_eq_iff.1, ofMessage_eq_iff]
    constructor
    · rintro ⟨part, ⟨before, after, rfl⟩, hphrase⟩
      exact ⟨before, part, after, rfl, hphrase⟩
    · rintro ⟨before, part, after, rfl, hphrase⟩
      exact ⟨part, ⟨before, after, rfl⟩, hphrase⟩
  · rw [label_eq_iff.2, ne_eq, ne_eq, label_eq_iff.1]
  · refine congrArg label (eq_of_missingAnnotation_iff ?_)
    rw [ofMessage_eq_iff, ofMessage_eq_iff]
    exact ⟨exists_phrase_of_map_ascii? hsame, exists_phrase_of_map_ascii? hsame.symm⟩
  · rw [label_eq_iff.1, ofMessage_eq_iff] at h ⊢
    obtain ⟨part, hpart, hphrase⟩ := h
    exact ⟨part, hpart.trans ⟨before, after, rfl⟩, hphrase⟩

/-- The dotted capital I and the Kelvin sign are no letters of the words, and a sigma on
    either side does not hide them. -/
theorem ofMessage_dotted :
    (Text.ofString "m\u0130ssing type annotation").map Text.ascii? =
        (Text.ofString "m\u212Assing type annotation").map Text.ascii? ∧
      (ofMessage "m\u0130ssing type annotation").label =
        (ofMessage "m\u212Assing type annotation").label ∧
      (ofMessage "Missing Type ANNOTATION").label = "missing-annotation" ∧
      (ofMessage ("ΑΣ" ++ "Missing Type ANNOTATION" ++ "Σ")).label = "missing-annotation" := by
  have hsame : (Text.ofString "m\u0130ssing type annotation").map Text.ascii? =
      (Text.ofString "m\u212Assing type annotation").map Text.ascii? := by decide
  have hwords : (ofMessage "Missing Type ANNOTATION").label = "missing-annotation" :=
    (ofMessage_by_ascii.1 _).2 ⟨[], _, [], (List.append_nil _).symm, by decide, by decide⟩
  exact ⟨hsame, ofMessage_by_ascii.2.2.1 _ _ hsame, hwords, ofMessage_by_ascii.2.2.2 _ _ _ hwords⟩

end Rule

end FlowLens
