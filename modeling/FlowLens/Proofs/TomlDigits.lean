/-
  The digit limit in a settings file.  Every reader of a TOML text takes what it reads
  from the front and hands on the rest, and a text is refused for its digits only if
  an integer stands in it that has more than `digitLimit` of them.

  * `Toml.LongInteger`, such an integer in a text, with the underscores between its
    digits;
  * `Toml.Reads`, what a reader does with a text, and how it is handed on by
    `Toml.Reads.map` and `Toml.Reads.bind`;
  * `Toml.longInteger_of_read`: why a text is refused for its digits.
-/
import FlowLens.Proofs.DigitLimit
import FlowLens.Toml.Reader
import Mathlib

namespace FlowLens

namespace Toml

/-- An integer of too many digits stands in a text, perhaps with underscores; it has
    as many as the refusal says. -/
def LongInteger (cause : TooManyDigits) (t : Text) : Prop :=
  ∃ written, written <:+: t ∧
    (∀ c ∈ written, c.isAsciiDigit = true ∨ c = .char '_') ∧
    digitLimit < (written.filter (· ≠ .char '_')).length ∧
    cause = .reading (written.filter (· ≠ .char '_')).length

theorem LongInteger.of_infix {cause : TooManyDigits} {t t' : Text} (ht : t' <:+: t)
    (h : LongInteger cause t') : LongInteger cause t := by
  obtain ⟨written, hwritten, hrest⟩ := h
  exact ⟨written, hwritten.trans ht, hrest⟩

/-- What reading from the front of `t` comes to: `rest` of what is read is a rest of
    `t`, or there is a fault, where an integer of too many digits stands in `t`. -/
def Reads {α : Type} (rest : α → Text) (t : Text) : Except ReadError α → Prop
  | .ok a => rest a <:+ t
  | .error .malformed => True
  | .error (.tooLong cause) => LongInteger cause t

namespace Reads

variable {α β : Type} {rest : α → Text} {rest' : β → Text} {t : Text} {r : Except ReadError α}

theorem of_suffix {t' : Text} (ht : t' <:+ t) (h : Reads rest t' r) : Reads rest t r := by
  rcases r with (_ | cause) | a
  · trivial
  · exact LongInteger.of_infix ht.isInfix h
  · exact List.IsSuffix.trans h ht

theorem map {f : α → β} (h : Reads rest t r) (hf : ∀ a, rest' (f a) <:+ rest a) :
    Reads rest' t (r.map f) := by
  rcases r with (_ | cause) | a
  · trivial
  · exact h
  · exact (hf a).trans h

theorem bind {f : α → Except ReadError β} (h : Reads rest t r)
    (hf : ∀ a, Reads rest' (rest a) (f a)) : Reads rest' t (r >>= f) := by
  rcases r with (_ | cause) | a
  · trivial
  · exact h
  · exact (hf a).of_suffix h

end Reads

theorem skipGap_suffix (t : Text) : skipGap t <:+ t :=
  List.dropWhile_suffix _

/-! ## Strings -/

theorem readLiteral_reads (t : Text) : Reads Prod.snd t (readLiteral t) := by
  unfold readLiteral
  split
  · trivial
  · next content c rest hspan =>
    split_ifs
    · trivial
    · rw [List.span_eq_takeWhile_dropWhile] at hspan
      have hrest : c :: rest <:+ t := (Prod.mk.inj hspan).2 ▸ List.dropWhile_suffix _
      exact (List.suffix_cons _ _).trans hrest

theorem readNumbered_reads (width : Nat) (t : Text) : Reads Prod.snd t (readNumbered width t) := by
  unfold readNumbered
  split_ifs
  · trivial
  · split
    · exact List.drop_suffix _ _
    · trivial

theorem skipEscapedLine_reads (t : Text) : Reads id t (skipEscapedLine t) := by
  have hgap := skipGap_suffix t
  unfold skipEscapedLine
  split
  · exact List.nil_suffix
  · next rest hline =>
    rw [hline] at hgap
    exact (List.dropWhile_suffix _).trans ((List.suffix_cons _ _).trans hgap)
  · trivial

theorem readEscape_reads (lines : Bool) (t : Text) : Reads Prod.snd t (readEscape lines t) := by
  unfold readEscape
  split
  case h_8 | h_9 => exact (readNumbered_reads _ _).of_suffix (List.suffix_cons _ _)
  case h_10 =>
    split_ifs
    · exact (skipEscapedLine_reads _).map fun _ => List.suffix_refl _
    · trivial
  case h_11 => trivial
  all_goals exact List.suffix_cons _ _

theorem readBasic_reads (lines : Bool) (fuel : Nat) (t : Text) :
    Reads Prod.snd t (readBasic lines fuel t) := by
  induction fuel generalizing t with
  | zero => trivial
  | succ fuel ih =>
    unfold readBasic
    split
    · trivial
    · next rest =>
      split_ifs
      · split
        · exact ⟨[_, _, _], rfl⟩
        · exact ((ih rest).of_suffix (List.suffix_cons _ _)).map fun _ => List.suffix_refl _
      · exact List.suffix_cons _ _
    · next rest =>
      refine ((readEscape_reads lines rest).of_suffix (List.suffix_cons _ _)).bind fun a => ?_
      exact (ih a.2).map fun _ => List.suffix_refl _
    · next c rest _ _ =>
      by_cases hc : (if lines = true then isIllegalInLines c else isIllegal c) = true
      · rw [if_pos hc]
        trivial
      · rw [if_neg hc]
        exact ((ih rest).of_suffix (List.suffix_cons _ _)).map fun _ => List.suffix_refl _

theorem untilTriple_suffix {t s rest : Text} (h : untilTriple t = some (s, rest)) : rest <:+ t := by
  induction t generalizing s with
  | nil => cases h
  | cons c t ih =>
    unfold untilTriple at h
    split at h
    · cases h
    · next heq =>
      cases h
      exact heq ▸ ⟨[_, _, _], rfl⟩
    · next _ heq =>
      obtain ⟨rfl, rfl⟩ := List.cons.inj heq
      obtain ⟨⟨s', rest'⟩, hrest, he⟩ := Option.map_eq_some_iff.1 h
      cases he
      exact (ih hrest).trans (List.suffix_cons _ _)

theorem skipLineEnd_suffix (t : Text) : skipLineEnd t <:+ t := by
  unfold skipLineEnd
  split
  · exact List.suffix_cons _ _
  · exact List.suffix_refl _

theorem readLiteralLines_reads (t : Text) : Reads Prod.snd t (readLiteralLines t) := by
  unfold readLiteralLines
  split
  · trivial
  · next hs =>
    split_ifs
    · trivial
    · exact (List.drop_suffix _ _).trans ((untilTriple_suffix hs).trans (skipLineEnd_suffix t))

theorem readBasicLines_reads (t : Text) : Reads Prod.snd t (readBasicLines t) := by
  unfold readBasicLines
  refine ((readBasic_reads true _ _).of_suffix (skipLineEnd_suffix t)).bind fun a => ?_
  exact List.drop_suffix _ _

theorem readString?_reads {t : Text} {r : Except ReadError (Text × Text)}
    (h : readString? t = some r) : Reads Prod.snd t r := by
  unfold readString? at h
  split at h
  · cases h
    exact (readBasicLines_reads _).of_suffix ⟨[_, _, _], rfl⟩
  · cases h
    exact (readBasic_reads _ _ _).of_suffix (List.suffix_cons _ _)
  · cases h
    exact (readLiteralLines_reads _).of_suffix ⟨[_, _, _], rfl⟩
  · cases h
    exact (readLiteral_reads _).of_suffix (List.suffix_cons _ _)
  · cases h

/-! ## Dates and times -/

theorem takeTwo?_suffix {low high n : Nat} {t rest : Text}
    (h : takeTwo? low high t = some (n, rest)) : rest <:+ t := by
  unfold takeTwo? at h
  split at h
  · simp only [bind, Option.bind_eq_some_iff] at h
    obtain ⟨_, -, _, -, h⟩ := h
    split_ifs at h
    cases h
    exact ⟨[_, _], rfl⟩
  · cases h

theorem expect?_suffix {c : Char} {t rest : Text} (h : expect? c t = some rest) : rest <:+ t := by
  unfold expect? at h
  split at h
  · split_ifs at h
    cases h
    exact List.suffix_cons _ _
  · cases h

theorem skipFraction_suffix (t : Text) : skipFraction t <:+ t := by
  unfold skipFraction
  split
  · next rest =>
    split
    · exact List.suffix_refl _
    · next hspan =>
      rw [List.span_eq_takeWhile_dropWhile] at hspan
      have hrest := (Prod.mk.inj hspan).2 ▸ List.dropWhile_suffix CodePoint.isAsciiDigit
      exact List.IsSuffix.trans hrest (List.suffix_cons _ _)
  · exact List.suffix_refl _

theorem skipTime?_suffix {t rest : Text} (h : skipTime? t = some rest) : rest <:+ t := by
  simp only [skipTime?, bind, Option.bind_eq_some_iff, pure, Option.some.injEq] at h
  obtain ⟨⟨_, t₁⟩, h₁, t₂, h₂, ⟨_, t₃⟩, h₃, t₄, h₄, ⟨_, t₅⟩, h₅, rfl⟩ := h
  exact (skipFraction_suffix t₅).trans ((takeTwo?_suffix h₅).trans ((expect?_suffix h₄).trans
    ((takeTwo?_suffix h₃).trans ((expect?_suffix h₂).trans (takeTwo?_suffix h₁)))))

theorem skipZone?_suffix {t rest : Text} (h : skipZone? t = some rest) : rest <:+ t := by
  unfold skipZone? at h
  split at h
  · split_ifs at h
    · cases h
      exact List.suffix_cons _ _
    · simp only [bind, Option.bind_eq_some_iff, pure, Option.some.injEq] at h
      obtain ⟨⟨_, t₁⟩, h₁, t₂, h₂, ⟨_, t₃⟩, h₃, rfl⟩ := h
      exact (takeTwo?_suffix h₃).trans ((expect?_suffix h₂).trans ((takeTwo?_suffix h₁).trans
        (List.suffix_cons _ _)))
  · cases h

theorem skipTimeOfDate_suffix (t : Text) : skipTimeOfDate t <:+ t := by
  unfold skipTimeOfDate
  split
  · next c rest =>
    split_ifs
    · split
      · next rest' htime =>
        have hrest' := (skipTime?_suffix htime).trans (List.suffix_cons (CodePoint.char c) rest)
        cases hzone : skipZone? rest' with
        | none => exact hrest'
        | some rest'' => exact (skipZone?_suffix hzone).trans hrest'
      · exact List.suffix_refl _
    · exact List.suffix_refl _
  · exact List.suffix_refl _

theorem takeDate?_suffix {t rest : Text} {year month day : Nat}
    (h : takeDate? t = some (year, month, day, rest)) : rest <:+ t := by
  simp only [takeDate?, bind, Option.bind_eq_some_iff, pure, Option.some.injEq, Prod.mk.injEq] at h
  obtain ⟨⟨_, t₁⟩, h₁, ⟨_, t₂⟩, h₂, t₃, h₃, ⟨_, t₄⟩, h₄, t₅, h₅, ⟨_, t₆⟩, h₆, -, -, -, rfl⟩ := h
  exact (takeTwo?_suffix h₆).trans ((expect?_suffix h₅).trans ((takeTwo?_suffix h₄).trans
    ((expect?_suffix h₃).trans ((takeTwo?_suffix h₂).trans (takeTwo?_suffix h₁)))))

theorem readMoment?_reads {t : Text} {r : Except ReadError (Value × Text)}
    (h : readMoment? t = some r) : Reads Prod.snd t r := by
  unfold readMoment? at h
  split at h
  · next hdate =>
    split_ifs at h
    · cases h
      exact (skipTimeOfDate_suffix _).trans (takeDate?_suffix hdate)
    · cases h
      trivial
  · obtain ⟨rest, htime, rfl⟩ := Option.map_eq_some_iff.1 h
    exact skipTime?_suffix htime

/-! ## Numbers -/

/-- Digits in front of `rest`, and how they are written: perhaps with underscores. -/
structure Digits (p : CodePoint → Bool) (t digits rest written : Text) : Prop where
  front : t = written ++ rest
  digits : digits = written.filter (· ≠ .char '_')
  written : ∀ c ∈ written, p c = true ∨ c = .char '_'

theorem Digits.suffix {p : CodePoint → Bool} {t digits rest written : Text}
    (h : Digits p t digits rest written) : rest <:+ t :=
  ⟨written, h.front.symm⟩

theorem Digits.cons {p : CodePoint → Bool} (hp : p (.char '_') = false) {c : CodePoint}
    (hc : p c = true) {t digits rest written : Text} (h : Digits p t digits rest written) :
    Digits p (c :: t) (c :: digits) rest (c :: written) := by
  have hne : c ≠ .char '_' := by
    rintro rfl
    rw [hp] at hc
    cases hc
  refine ⟨?_, ?_, List.forall_mem_cons.2 ⟨.inl hc, h.written⟩⟩
  · rw [h.front, List.cons_append]
  · rw [List.filter_cons_of_pos (by simpa using hne), h.digits]

theorem moreDigits_spec {p : CodePoint → Bool} (hp : p (.char '_') = false) {t digits rest : Text}
    (h : moreDigits p t = (digits, rest)) : ∃ written, Digits p t digits rest written := by
  fun_induction moreDigits p t generalizing digits with
  | case1 c t hc more r hmore ih =>
    cases h
    obtain ⟨written, hwritten⟩ := ih hmore
    have hcons := hwritten.cons hp hc
    refine ⟨.char '_' :: c :: written, ?_, ?_, ?_⟩
    · rw [hcons.front]; rfl
    · rw [List.filter_cons_of_neg (by simp), hcons.digits]
    · exact List.forall_mem_cons.2 ⟨.inr rfl, hcons.written⟩
  | case2 | case4 | case5 =>
    cases h
    exact ⟨[], rfl, rfl, by simp⟩
  | case3 c t _ hc more r hmore ih =>
    cases h
    obtain ⟨written, hwritten⟩ := ih hmore
    exact ⟨c :: written, hwritten.cons hp hc⟩

theorem takeDigits?_spec {p : CodePoint → Bool} (hp : p (.char '_') = false)
    {t digits rest : Text} (h : takeDigits? p t = some (digits, rest)) :
    ∃ written, Digits p t digits rest written := by
  unfold takeDigits? at h
  split at h
  · next c t =>
    split_ifs at h with hc
    cases h
    obtain ⟨written, hwritten⟩ := moreDigits_spec hp rfl
    exact ⟨c :: written, hwritten.cons hp hc⟩
  · cases h

theorem readBased?_suffix {t rest : Text} {v : Value} (h : readBased? t = some (v, rest)) :
    rest <:+ t := by
  unfold readBased? at h
  split at h
  · simp only [bind, Option.bind_eq_some_iff, pure, Option.some.injEq, Prod.mk.injEq] at h
    obtain ⟨base, -, ⟨digits, t₁⟩, hdigits, -, rfl⟩ := h
    have hunderscore : isDigitOf base (.char '_') = false := rfl
    obtain ⟨written, hwritten⟩ := takeDigits?_spec hunderscore hdigits
    exact hwritten.suffix.trans ⟨[_, _], rfl⟩
  · cases h

theorem takeWhole?_spec {t digits rest : Text} (h : takeWhole? t = some (digits, rest)) :
    ∃ written, Digits CodePoint.isAsciiDigit t digits rest written := by
  unfold takeWhole? at h
  split at h
  · cases h
    exact ⟨[.char '0'], rfl, by decide, by decide⟩
  · exact takeDigits?_spec (by decide) h

theorem takeFraction?_suffix {t : Text} {fraction : Text × Text}
    (h : takeFraction? t = some fraction) : fraction.2 <:+ t := by
  unfold takeFraction? at h
  split at h
  · obtain ⟨written, hwritten⟩ := takeDigits?_spec (by decide) h
    exact hwritten.suffix.trans (List.suffix_cons _ _)
  · cases h

theorem takeExponent?_suffix {t : Text} {exponent : Int × Text}
    (h : takeExponent? t = some exponent) : exponent.2 <:+ t := by
  unfold takeExponent? at h
  split at h
  · next c rest =>
    split_ifs at h
    simp only [bind, Option.bind_eq_some_iff, pure, Option.some.injEq] at h
    obtain ⟨⟨digits, t₁⟩, hdigits, rfl⟩ := h
    obtain ⟨written, hwritten⟩ := takeDigits?_spec (by decide) hdigits
    exact hwritten.suffix.trans ((Json.takeSign_suffix rest).trans (List.suffix_cons _ _))
  · cases h

theorem getD_suffix {α : Type} {part : Option (α × Text)} {a : α} {t : Text}
    (h : ∀ p, part = some p → p.2 <:+ t) : (part.getD (a, t)).2 <:+ t := by
  cases part with
  | none => exact List.suffix_refl _
  | some p => exact h p rfl

theorem readDecimal?_reads {t : Text} {r : Except ReadError (Value × Text)}
    (h : readDecimal? t = some r) : Reads Prod.snd t r := by
  simp only [readDecimal?, bind, Option.bind_eq_some_iff] at h
  obtain ⟨⟨digits, t₁⟩, hwhole, h⟩ := h
  obtain ⟨written, hwritten⟩ := takeWhole?_spec hwhole
  have hsign := Json.takeSign_suffix t
  have hfraction : ((takeFraction? t₁).getD ([], t₁)).2 <:+ t₁ :=
    getD_suffix fun _ => takeFraction?_suffix
  have hexponent (t : Text) : ((takeExponent? t).getD (0, t)).2 <:+ t :=
    getD_suffix fun _ => takeExponent?_suffix
  have hrest := (hexponent _).trans (hfraction.trans (hwritten.suffix.trans hsign))
  split_ifs at h with _ hlimit
  · cases h
    exact hrest
  · cases h
    exact hrest
  · cases h
    have hdigits := hwritten.digits ▸ Nat.lt_of_not_le hlimit
    refine ⟨written, ?_, hwritten.written, hdigits, by rw [hwritten.digits]⟩
    exact List.IsInfix.trans ⟨[], _, by rw [hwritten.front]; rfl⟩ hsign.isInfix

theorem readDoubleWord?_suffix {t : Text} {p : Value × Text} (h : readDoubleWord? t = some p) :
    p.2 <:+ t := by
  have hdrop := (List.drop_suffix 3 (takeSign t).2).trans (Json.takeSign_suffix t)
  simp only [readDoubleWord?] at h
  split_ifs at h <;> cases h <;> exact hdrop

theorem readAtom_reads (t : Text) : Reads Prod.snd t (readAtom t) := by
  unfold readAtom
  split_ifs
  · exact List.drop_suffix _ _
  · exact List.drop_suffix _ _
  · split
    · next hr => exact readMoment?_reads hr
    · split
      · next hr => exact readBased?_suffix hr
      · split
        · next hr => exact readDecimal?_reads hr
        · split
          · next hr => exact readDoubleWord?_suffix hr
          · trivial

/-! ## Keys and values -/

theorem skipComment_reads (t : Text) : Reads id t (skipComment t) := by
  unfold skipComment
  split
  · next rest =>
    rw [List.span_eq_takeWhile_dropWhile]
    dsimp only
    split_ifs
    · trivial
    · exact (List.dropWhile_suffix _).trans (List.suffix_cons _ _)
  · exact List.suffix_refl _

theorem skipLines_reads (fuel : Nat) (t : Text) : Reads id t (skipLines fuel t) := by
  induction fuel generalizing t with
  | zero => exact List.suffix_refl _
  | succ fuel ih =>
    have hrest : t.dropWhile isGapOrLine <:+ t := List.dropWhile_suffix _
    unfold skipLines
    split
    · next heq =>
      exact ((skipComment_reads _).of_suffix (heq ▸ hrest)).bind fun t' => ih t'
    · exact hrest

theorem readName_reads (t : Text) : Reads Prod.snd t (readName t) := by
  unfold readName
  split
  · exact (readLiteral_reads _).of_suffix (List.suffix_cons _ _)
  · exact (readBasic_reads _ _ _).of_suffix (List.suffix_cons _ _)
  · rw [List.span_eq_takeWhile_dropWhile]
    split
    · trivial
    · next hspan => exact (Prod.mk.inj hspan).2 ▸ List.dropWhile_suffix _

theorem readKey_reads (fuel : Nat) (t : Text) : Reads Prod.snd t (readKey fuel t) := by
  induction fuel generalizing t with
  | zero => trivial
  | succ fuel ih =>
    unfold readKey
    refine (readName_reads t).bind fun a => ?_
    have hrest := skipGap_suffix a.2
    dsimp only
    split
    · next rest hgap =>
      have hdot := (List.suffix_cons _ _).trans (hgap ▸ hrest)
      exact ((ih _).of_suffix ((skipGap_suffix rest).trans hdot)).map fun _ => List.suffix_refl _
    · exact hrest

theorem readAssigned_reads (t : Text) : Reads Prod.snd t (readAssigned t) := by
  unfold readAssigned
  refine (readKey_reads _ t).bind fun a => ?_
  split
  · exact (skipGap_suffix _).trans (List.suffix_cons _ _)
  · trivial

/-- The three readers of values, items and keys within a line, by induction on the
    depth that is left to them. -/
theorem readers_read (fuel : Nat) :
    (∀ t, Reads Prod.snd t (readValue fuel t)) ∧ (∀ t, Reads Prod.snd t (readItems fuel t)) ∧
      ∀ d t, Reads Prod.snd t (readInline fuel d t) := by
  induction fuel with
  | zero => exact ⟨fun _ => trivial, fun _ => trivial, fun _ _ => trivial⟩
  | succ fuel ih =>
    obtain ⟨ihValue, ihItems, ihInline⟩ := ih
    refine ⟨fun t => ?_, fun t => ?_, fun d t => ?_⟩
    · unfold readValue
      split
      · next hs => exact (readString?_reads hs).map fun _ => List.suffix_refl _
      · split
        · next rest _ =>
          refine ((skipLines_reads _ rest).of_suffix (List.suffix_cons _ _)).bind fun a => ?_
          split
          · exact List.suffix_cons _ _
          · exact (ihItems _).map fun _ => List.suffix_refl _
        · next rest _ =>
          have hrest := (skipGap_suffix rest).trans (List.suffix_cons (.char '\x7b') rest)
          split
          · next hgap => exact (List.suffix_cons _ _).trans (hgap ▸ hrest)
          · exact ((ihInline _ _).of_suffix hrest).map fun _ => List.suffix_refl _
        · exact readAtom_reads _
    · unfold readItems
      refine (ihValue t).bind fun a => ?_
      refine (skipLines_reads _ a.2).bind fun rest => ?_
      split
      · exact List.suffix_cons _ _
      · refine ((skipLines_reads _ _).of_suffix (List.suffix_cons _ _)).bind fun rest => ?_
        split
        · exact List.suffix_cons _ _
        · exact (ihItems _).map fun _ => List.suffix_refl _
      · trivial
    · unfold readInline
      refine (readAssigned_reads t).bind fun a => ?_
      refine (ihValue a.2).bind fun b => ?_
      have hrest := skipGap_suffix b.2
      dsimp only
      split
      · trivial
      · split
        · next hgap => exact (List.suffix_cons _ _).trans (hgap ▸ hrest)
        · next rest hgap =>
          have hcomma := (List.suffix_cons _ _).trans (hgap ▸ hrest)
          exact (ihInline _ _).of_suffix ((skipGap_suffix rest).trans hcomma)
        · trivial

/-! ## Statements -/

theorem readHeader_reads (d : Draft) (t : Text) : Reads Prod.snd t (readHeader d t) := by
  unfold readHeader
  split
  · next rest =>
    have hrest := (skipGap_suffix rest).trans (List.suffix_cons (.char '[') rest)
    refine ((readKey_reads _ _).of_suffix hrest).bind fun a => ?_
    split
    · split
      · exact ⟨[_, _], rfl⟩
      · trivial
    · trivial
  · refine ((readKey_reads _ _).of_suffix (skipGap_suffix t)).bind fun a => ?_
    split
    · split
      · exact List.suffix_cons _ _
      · trivial
    · trivial

theorem readAssignment_reads (d : Draft) (t : Text) : Reads Prod.snd t (readAssignment d t) := by
  unfold readAssignment
  refine (readAssigned_reads t).bind fun a => ?_
  refine ((readers_read _).1 a.2).bind fun b => ?_
  dsimp only
  split
  · exact List.suffix_refl _
  · trivial

theorem readStatement_reads (d : Draft) (t : Text) : Reads Prod.snd t (readStatement d t) := by
  unfold readStatement
  split
  · exact (readHeader_reads d _).of_suffix (List.suffix_cons _ _)
  · exact List.suffix_refl _
  · split_ifs
    · exact readAssignment_reads d _
    · trivial
  · exact List.suffix_refl _

/-- Nothing is left of a text when its last statement is read. -/
theorem readStatements_reads (fuel : Nat) (d : Draft) (t : Text) :
    Reads (fun _ => []) t (readStatements fuel d t) := by
  induction fuel generalizing d t with
  | zero => exact List.nil_suffix
  | succ fuel ih =>
    have hrest := skipGap_suffix t
    unfold readStatements
    split
    · exact List.nil_suffix
    · next hgap => exact (ih _ _).of_suffix ((List.suffix_cons _ _).trans (hgap ▸ hrest))
    · refine ((readStatement_reads d _).of_suffix hrest).bind fun a => ?_
      refine ((skipComment_reads _).of_suffix (skipGap_suffix a.2)).bind fun rest => ?_
      split
      · exact List.nil_suffix
      · exact (ih _ _).of_suffix (List.suffix_cons _ _)
      · trivial

/-! ## The whole text -/

theorem prefix_of_joinLineEnds {t run : Text} (hrun : .char '\n' ∉ run)
    (h : run <+: joinLineEnds t) : run <+: t := by
  fun_induction joinLineEnds t generalizing run with
  | case1 => exact h
  | case2 rest ih =>
    obtain rfl | ⟨run, rfl, -⟩ := List.prefix_cons_iff.1 h
    · exact List.nil_prefix
    · simp at hrun
  | case3 c rest _ ih =>
    obtain rfl | ⟨run, rfl, htail⟩ := List.prefix_cons_iff.1 h
    · exact List.nil_prefix
    · exact (List.prefix_cons_inj c).2 (ih (fun hc => hrun (List.mem_cons_of_mem _ hc)) htail)

/-- A run of characters without a line end is not made by joining line ends. -/
theorem infix_of_joinLineEnds {t run : Text} (hrun : .char '\n' ∉ run)
    (h : run <:+: joinLineEnds t) : run <:+: t := by
  fun_induction joinLineEnds t with
  | case1 => exact h
  | case2 rest ih =>
    obtain hfront | htail := List.infix_cons_iff.1 h
    · obtain rfl | ⟨run, rfl, -⟩ := List.prefix_cons_iff.1 hfront
      · exact List.nil_infix
      · simp at hrun
    · exact (ih htail).trans ⟨[_, _], [], List.append_nil _⟩
  | case3 c rest hline ih =>
    obtain hfront | htail := List.infix_cons_iff.1 h
    · refine (prefix_of_joinLineEnds hrun ?_).isInfix
      rwa [joinLineEnds.eq_3 c rest hline]
    · exact List.infix_cons (ih htail)

theorem longInteger_of_joinLineEnds {cause : TooManyDigits} {t : Text}
    (h : LongInteger cause (joinLineEnds t)) : LongInteger cause t := by
  obtain ⟨written, hwritten, hdigits, hrest⟩ := h
  refine ⟨written, infix_of_joinLineEnds (fun hc => ?_) hwritten, hdigits, hrest⟩
  exact absurd (hdigits _ hc) (by decide)

/-- **A text that is refused for its digits holds an integer with too many.** -/
theorem longInteger_of_read {t : Text} {cause : TooManyDigits}
    (h : read t = .error (.tooLong cause)) : LongInteger cause t := by
  have hreads : Reads (fun _ => []) (joinLineEnds t) (read t) :=
    (readStatements_reads _ _ _).bind fun _ => List.suffix_refl _
  rw [h] at hreads
  exact longInteger_of_joinLineEnds hreads

end Toml

end FlowLens
