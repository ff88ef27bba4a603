/-
  References are resolved by one substitution, from left to right.

  * `IsToken` and `TokenFree`: what a token is, and that a text has none;
  * `Cutting`: a text that is cut at its tokens, and `existsUnique_cuts`: there is
    exactly one way to cut it;
  * `Replaced`: what a token is replaced by, as the first message that it may refer
    to has it;
  * `describe_eq_substitution`: a description is told with its tokens replaced, and
    what replaces them is not looked at again.
-/
import FlowLens.Proofs.Wording
import Mathlib

namespace FlowLens

/-! ## Tokens -/

/-- A token without the blank in front of it: one or more digits in brackets. -/
def IsToken (t : Text) : Prop :=
  ∃ digits : Text, digits ≠ [] ∧ (∀ c ∈ digits, c.isDigit = true) ∧
    t = .char '[' :: (digits ++ [.char ']'])

/-- No token with a blank in front of it occurs in a text. -/
def TokenFree (t : Text) : Prop :=
  ∀ token, IsToken token → ¬ (.char ' ' :: token) <:+: t

theorem span_digits {digits rest : Text} (h : ∀ c ∈ digits, c.isDigit = true) :
    (digits ++ .char ']' :: rest).span CodePoint.isDigit = (digits, .char ']' :: rest) := by
  have hclose : (CodePoint.char ']').isDigit = false := by decide
  rw [List.span_eq_takeWhile_dropWhile, List.takeWhile_append_of_pos h,
    List.dropWhile_append_of_pos h, List.takeWhile_cons_of_neg (by simp [hclose]),
    List.dropWhile_cons_of_neg (by simp [hclose]), List.append_nil]

theorem tokenAt?_of_isToken {token : Text} (h : IsToken token) (rest : Text) :
    tokenAt? (.char ' ' :: (token ++ rest)) = some token := by
  obtain ⟨digits, hne, hdigits, rfl⟩ := h
  have hspan : (digits ++ [CodePoint.char ']'] ++ rest).span CodePoint.isDigit =
      (digits, .char ']' :: rest) := by
    rw [List.append_assoc]
    exact span_digits hdigits
  rw [List.cons_append, tokenAt?, hspan]
  cases digits with
  | nil => exact absurd rfl hne
  | cons d ds => rfl

theorem isToken_of_tokenAt? {t token : Text} (h : tokenAt? t = some token) :
    IsToken token ∧ ∃ rest, t = .char ' ' :: (token ++ rest) := by
  unfold tokenAt? at h
  split at h
  · next rest =>
    split at h
    · cases h
    · next digits rest' hne hspan =>
      rw [List.span_eq_takeWhile_dropWhile] at hspan
      obtain ⟨rfl, hrest⟩ := Prod.mk.inj hspan
      cases h
      refine ⟨⟨_, hne, fun c hc => List.mem_takeWhile_imp hc, rfl⟩, rest', ?_⟩
      rw [List.cons_append, List.append_assoc, List.singleton_append, ← hrest,
        List.takeWhile_append_dropWhile]
    · cases h
  · cases h

/-- A text starts with a token iff one is found at its front. -/
theorem tokenAt?_eq_some_iff {t token : Text} :
    tokenAt? t = some token ↔ IsToken token ∧ (.char ' ' :: token) <+: t := by
  constructor
  · intro h
    obtain ⟨htoken, rest, rfl⟩ := isToken_of_tokenAt? h
    exact ⟨htoken, rest, rfl⟩
  · rintro ⟨htoken, rest, rfl⟩
    exact tokenAt?_of_isToken htoken rest

/-- The only blank of a token is the one in front of it. -/
theorem IsToken.blank_not_mem {token : Text} (h : IsToken token) : .char ' ' ∉ token := by
  obtain ⟨digits, -, hdigits, rfl⟩ := h
  intro hmem
  rcases List.mem_cons.1 hmem with hopen | hmem
  · exact absurd hopen (by decide)
  rcases List.mem_append.1 hmem with hdigit | hclose
  · exact absurd (hdigits _ hdigit) (by decide)
  · exact absurd (List.mem_singleton.1 hclose) (by decide)

theorem tokenFree_nil : TokenFree [] := by
  intro token _ hinfix
  exact absurd (List.infix_nil.1 hinfix) (by simp)

/-- A text has no token iff there is none at its front and none behind that. -/
theorem tokenFree_cons_iff {c : CodePoint} {t : Text} :
    TokenFree (c :: t) ↔ tokenAt? (c :: t) = none ∧ TokenFree t := by
  constructor
  · intro h
    refine ⟨Option.eq_none_iff_forall_ne_some.2 fun token htoken => ?_, fun token htoken hinfix => ?_⟩
    · obtain ⟨htoken, hpre⟩ := tokenAt?_eq_some_iff.1 htoken
      exact h token htoken hpre.isInfix
    · exact h token htoken (List.infix_cons hinfix)
  · rintro ⟨hfront, hrest⟩ token htoken hinfix
    rcases List.infix_cons_iff.1 hinfix with hpre | hinfix
    · rw [tokenAt?_eq_some_iff.2 ⟨htoken, hpre⟩] at hfront
      cases hfront
    · exact hrest token htoken hinfix

/-- What follows a text does not make a token at its front, if it starts with a
    blank: such a token would hold that blank. -/
theorem tokenAt?_append {c : CodePoint} {front behind : Text}
    (hbehind : ∀ d rest, behind = d :: rest → d = .char ' ') (h : tokenAt? (c :: front) = none) :
    tokenAt? (c :: (front ++ behind)) = none := by
  refine Option.eq_none_iff_forall_ne_some.2 fun token hat => ?_
  obtain ⟨htoken, hpre⟩ := tokenAt?_eq_some_iff.1 hat
  have hinside : ¬ (.char ' ' :: token) <+: c :: front := by
    intro hinside
    rw [tokenAt?_eq_some_iff.2 ⟨htoken, hinside⟩] at h
    cases h
  rcases List.prefix_or_prefix_of_prefix hpre (List.prefix_append (c :: front) behind) with hin | ⟨beyond, hbeyond⟩
  · exact hinside hin
  · cases beyond with
    | nil =>
      rw [List.append_nil] at hbeyond
      exact hinside (hbeyond ▸ List.prefix_refl _)
    | cons d rest =>
      rw [← hbeyond, ← List.cons_append, List.prefix_append_right_inj] at hpre
      obtain ⟨more, hmore⟩ := hpre
      obtain rfl := hbehind d (rest ++ more) hmore.symm
      obtain ⟨-, rfl⟩ := List.cons.inj hbeyond
      exact htoken.blank_not_mem (by simp)

/-! ## Pieces -/

theorem piecesAfter_eq (skip : Nat) (t : Text) : piecesAfter skip t = pieces (t.drop skip) := by
  induction skip generalizing t with
  | zero => rfl
  | succ skip ih =>
    cases t with
    | nil => rfl
    | cons c rest => exact ih rest

theorem pieces_cons_of_none {c : CodePoint} {t : Text} (h : tokenAt? (c :: t) = none) :
    pieces (c :: t) = .plain c :: pieces t := by
  rw [pieces, piecesAfter, h]
  rfl

theorem pieces_of_isToken {token : Text} (h : IsToken token) (rest : Text) :
    pieces (.char ' ' :: (token ++ rest)) = .token token :: pieces rest := by
  rw [pieces, piecesAfter, tokenAt?_of_isToken h]
  dsimp only
  rw [piecesAfter_eq, List.drop_left]

theorem pieces_append {front behind : Text}
    (hbehind : ∀ d rest, behind = d :: rest → d = .char ' ') (h : TokenFree front) :
    pieces (front ++ behind) = front.map .plain ++ pieces behind := by
  induction front with
  | nil => rfl
  | cons c front ih =>
    obtain ⟨hfront, hrest⟩ := tokenFree_cons_iff.1 h
    rw [List.cons_append, pieces_cons_of_none (tokenAt?_append hbehind hfront), ih hrest]
    rfl

/-! ## Cutting a text at its tokens -/

/-- A text in pieces: what comes first, and then tokens, each with the text behind
    it. -/
structure Cutting where
  /-- What comes before all tokens. -/
  front : Text
  /-- The tokens, each with the text up to the next one. -/
  links : List (Text × Text)

namespace Cutting

/-- The pieces put together with something in place of each token. -/
def fill (k : Cutting) (f : Text → Text) : Text :=
  k.front ++ k.links.flatMap fun l => f l.1 ++ l.2

/-- The text that is cut. -/
def text (k : Cutting) : Text :=
  k.fill (.char ' ' :: ·)

/-- A text is cut at all its tokens, and nowhere else. -/
structure Cuts (k : Cutting) (t : Text) : Prop where
  text : k.text = t
  tokens : ∀ l ∈ k.links, IsToken l.1
  front : TokenFree k.front
  behind : ∀ l ∈ k.links, TokenFree l.2

/-- The cutting that starts with a code point more. -/
def cons (c : CodePoint) (k : Cutting) : Cutting :=
  ⟨c :: k.front, k.links⟩

/-- The cutting that starts with a token more. -/
def link (token : Text) (k : Cutting) : Cutting :=
  ⟨[], (token, k.front) :: k.links⟩

/-- The cutting that a scan from left to right gives. -/
def ofPieces : List Piece → Cutting
  | [] => ⟨[], []⟩
  | .plain c :: rest => (ofPieces rest).cons c
  | .token t :: rest => (ofPieces rest).link t

/-- The pieces of a cutting. -/
def pieces (k : Cutting) : List Piece :=
  k.front.map .plain ++ k.links.flatMap fun l => .token l.1 :: l.2.map .plain

theorem ofPieces_pieces (k : Cutting) : ofPieces k.pieces = k := by
  obtain ⟨front, links⟩ := k
  induction links generalizing front with
  | nil =>
    induction front with
    | nil => rfl
    | cons c front ih => exact congrArg (Cutting.cons c) ih
  | cons l links ih =>
    induction front with
    | nil => exact congrArg (Cutting.link l.1) (ih l.2)
    | cons c front ih' => exact congrArg (Cutting.cons c) ih'

variable {k : Cutting} {t token : Text} {c : CodePoint}

theorem text_cons : (k.cons c).text = c :: k.text := rfl

theorem text_link : (k.link token).text = .char ' ' :: (token ++ k.text) := by
  simp [text, fill, link]

/-- The scan finds the pieces of a cutting again: behind a text without tokens comes
    the blank of one, or nothing. -/
theorem pieces_text (htokens : ∀ l ∈ k.links, IsToken l.1) (hfront : TokenFree k.front)
    (hbehind : ∀ l ∈ k.links, TokenFree l.2) : FlowLens.pieces k.text = k.pieces := by
  obtain ⟨front, links⟩ := k
  induction links generalizing front with
  | nil =>
    have h : FlowLens.pieces (front ++ []) = front.map .plain ++ FlowLens.pieces [] :=
      pieces_append (by simp) hfront
    simpa [text, fill, pieces, FlowLens.pieces, piecesAfter] using h
  | cons l links ih =>
    obtain ⟨htoken, htokens⟩ := List.forall_mem_cons.1 htokens
    obtain ⟨hl, hbehind⟩ := List.forall_mem_cons.1 hbehind
    have htext : text ⟨front, l :: links⟩ =
        front ++ .char ' ' :: (l.1 ++ text ⟨l.2, links⟩) := by
      simp [text, fill]
    rw [htext, pieces_append (by rintro d rest ⟨⟩; rfl) hfront, pieces_of_isToken htoken,
      ih l.2 htokens hl hbehind]
    simp [pieces]

theorem Cuts.pieces_eq (h : k.Cuts t) : FlowLens.pieces t = k.pieces := by
  rw [← h.text, pieces_text h.tokens h.front h.behind]

/-- **There is only one way to cut a text** at its tokens, that of the scan. -/
theorem Cuts.eq_ofPieces (h : k.Cuts t) : k = ofPieces (FlowLens.pieces t) := by
  rw [h.pieces_eq, ofPieces_pieces]

theorem Cuts.cons (h : k.Cuts t) (hnone : tokenAt? (c :: t) = none) : (k.cons c).Cuts (c :: t) where
  text := by rw [text_cons, h.text]
  tokens := h.tokens
  front := by
    refine tokenFree_cons_iff.2 ⟨?_, h.front⟩
    -- a token at the front of the first piece is one at the front of the text
    refine Option.eq_none_iff_forall_ne_some.2 fun token hat => ?_
    obtain ⟨htoken, hpre⟩ := tokenAt?_eq_some_iff.1 hat
    have hfront : c :: k.front <+: c :: t := by
      rw [← h.text]
      exact List.prefix_append _ _
    rw [tokenAt?_eq_some_iff.2 ⟨htoken, hpre.trans hfront⟩] at hnone
    cases hnone
  behind := h.behind

theorem Cuts.link (h : k.Cuts t) (htoken : IsToken token) :
    (k.link token).Cuts (.char ' ' :: (token ++ t)) where
  text := by rw [text_link, h.text]
  tokens := List.forall_mem_cons.2 ⟨htoken, h.tokens⟩
  front := tokenFree_nil
  behind := List.forall_mem_cons.2 ⟨h.front, h.behind⟩

/-- **The scan cuts a text** at its tokens.  A token is passed over as a whole, so the
    induction is on the length of what is left. -/
theorem cuts_ofPieces (t : Text) : (ofPieces (FlowLens.pieces t)).Cuts t := by
  induction hlength : t.length using Nat.strong_induction_on generalizing t with
  | _ n ih =>
    subst hlength
    cases t with
    | nil => exact ⟨rfl, by simp [ofPieces, FlowLens.pieces, piecesAfter], tokenFree_nil,
        by simp [ofPieces, FlowLens.pieces, piecesAfter]⟩
    | cons c rest =>
      cases hat : tokenAt? (c :: rest) with
      | none =>
        rw [pieces_cons_of_none hat]
        exact (ih rest.length (by simp) rest rfl).cons hat
      | some token =>
        obtain ⟨htoken, rest', ht⟩ := isToken_of_tokenAt? hat
        rw [ht, pieces_of_isToken htoken]
        refine (ih rest'.length ?_ rest' rfl).link htoken
        rw [ht]
        simp

theorem existsUnique_cuts (t : Text) : ∃! k : Cutting, k.Cuts t :=
  ⟨_, cuts_ofPieces t, fun _ h => h.eq_ofPieces⟩

theorem flatMap_pieces (k : Cutting) (f : Piece → Text) (hplain : ∀ c, f (.plain c) = [c]) :
    k.pieces.flatMap f = k.fill fun token => f (.token token) := by
  have hmap : ∀ t : Text, (t.map Piece.plain).flatMap f = t := by
    intro t
    induction t with
    | nil => rfl
    | cons c t ih => rw [List.map_cons, List.flatMap_cons, hplain, ih]; rfl
  simp [pieces, fill, List.flatMap_assoc, hmap]

end Cutting

/-! ## What replaces a token -/

/-- The first message whose description is the token. -/
def IsFirst (extras : List Message) (token : Text) (m : Message) : Prop :=
  m.descr = token ∧
    ∃ before after, extras = before ++ m :: after ∧ ∀ other ∈ before, other.descr ≠ token

/-- What a token is replaced by.  The first message of that description decides: one
    in another file is told by where it stands, one on the line of the primary message
    by nothing, and any other by its line in the document. -/
inductive Replaced (primary : Message) (extras : List Message) (root version : Text) (line : Int)
    (token : Text) : Text → Prop
  | unknown : (∀ m ∈ extras, m.descr ≠ token) →
      Replaced primary extras root version line token (.char ' ' :: token)
  | elsewhere {m place} : IsFirst extras token m → m.path ≠ primary.path →
      seeAlso root version m = .ok place →
      Replaced primary extras root version line token (" (see " ++ place ++ ")")
  | sameLine {m} : IsFirst extras token m → m.path = primary.path → m.line = primary.line →
      Replaced primary extras root version line token []
  | otherLine {m} : IsFirst extras token m → m.path = primary.path → m.line ≠ primary.line →
      Replaced primary extras root version line token
        (" (see line " ++ intText (line + m.line) ++ ")")

theorem isFirst_iff {extras : List Message} {token : Text} {m : Message} :
    IsFirst extras token m ↔ extras.find? (·.descr = token) = some m := by
  simp [IsFirst, List.find?_eq_some_iff_append]

section
variable {primary : Message} {extras : List Message} {root version token t : Text} {line : Int}

/-- Each token is replaced by one text. -/
theorem replaced_iff (hlines : ∀ m ∈ extras, FewDigits m.line) :
    Replaced primary extras root version line token t ↔
      t = tokenText primary extras root version line token := by
  constructor
  · intro h
    unfold tokenText
    cases h with
    | unknown hnone =>
      rw [List.find?_eq_none.2 (by simpa using hnone)]
    | elsewhere hfirst hpath hplace =>
      have hm := isFirst_iff.1 hfirst
      rw [seeAlso_of_fewDigits (hlines _ (List.mem_of_find?_eq_some hm))] at hplace
      cases hplace
      rw [hm]
      simp only [if_pos hpath]
    | sameLine hfirst hpath hline =>
      rw [isFirst_iff.1 hfirst]
      simp only [hpath, hline, ne_eq, not_true_eq_false, if_false, if_true]
    | otherLine hfirst hpath hline =>
      rw [isFirst_iff.1 hfirst]
      simp only [hpath, hline, ne_eq, not_true_eq_false, if_false]
  · rintro rfl
    unfold tokenText
    cases hm : extras.find? (·.descr = token) with
    | none => exact .unknown (by simpa using hm)
    | some m =>
      have hfirst := isFirst_iff.2 hm
      dsimp only
      split_ifs with hpath hline
      · exact .elsewhere hfirst hpath (seeAlso_of_fewDigits (hlines m (List.mem_of_find?_eq_some hm)))
      · exact .sameLine hfirst (not_not.1 hpath) hline
      · exact .otherLine hfirst (not_not.1 hpath) hline

theorem flatMap_text_pieces {k : Cutting} (hk : k.Cuts primary.descr) :
    (pieces primary.descr).flatMap (Piece.text primary extras root version line) =
      k.fill (tokenText primary extras root version line) := by
  rw [hk.pieces_eq]
  exact k.flatMap_pieces _ fun _ => rfl

/-- Without messages to refer to, a description stays as it is. -/
theorem describe_nil (primary : Message) (root version : Text) (offset : Option Amount) :
    describe primary [] root version offset = .ok primary.descr := by
  have hk := Cutting.cuts_ofPieces primary.descr
  unfold describe
  rw [mapM_eq_ok (g := Piece.text primary [] root version 0)]
  · refine congrArg Except.ok ((flatMap_text_pieces hk).trans ?_)
    exact hk.text
  · intro piece _
    cases piece with
    | plain c => rfl
    | token token => rfl

theorem Entry.describe_eq (e : Entry) (root version : Text) (offset : Offset) :
    e.describe root version offset =
      FlowLens.describe e.primary e.references root version offset.line := by
  by_cases hr : e.references = []
  · rw [describe, hr, describe_nil]
  · exact describe_of_references_ne_nil hr offset

end

/-- **References are resolved by one substitution.**  There is exactly one way to cut
    a description at its tokens, and one text for each token to be replaced by.  What
    is told is the description with these texts in place of the tokens: none of them
    is looked at again, nor what they make together with the text around them.  An
    entry without messages to refer to is no exception. -/
theorem describe_eq_substitution (primary : Message) (extras : List Message)
    (root version : Text) (line : Int)
    (hlines : ∀ m ∈ extras, FewDigits m.line ∧ FewDigits (line + m.line)) :
    (∃! k : Cutting, k.Cuts primary.descr) ∧
    (∀ token, ∃! t, Replaced primary extras root version line token t) ∧
    (∀ k : Cutting, k.Cuts primary.descr → ∀ r : Text → Text,
      (∀ l ∈ k.links, Replaced primary extras root version line l.1 (r l.1)) →
      describe primary extras root version (some (.whole line)) = .ok (k.fill r)) ∧
    (∀ offset, describe primary [] root version offset = .ok primary.descr) ∧
    ∀ (e : Entry) (offset : Offset), e.describe root version offset =
      describe e.primary e.references root version offset.line := by
  have hshown : ∀ m ∈ extras, FewDigits m.line := fun m hm => (hlines m hm).1
  refine ⟨Cutting.existsUnique_cuts _, fun token => ?_, fun k hk r hr => ?_,
    describe_nil primary root version, fun e offset => e.describe_eq root version offset⟩
  · exact ⟨_, (replaced_iff hshown).2 rfl, fun _ h => (replaced_iff hshown).1 h⟩
  · have hfits : ∀ token, .token token ∈ pieces primary.descr →
        TokenFits primary extras line token :=
      fun token _ m hm _ _ => (hlines m (List.mem_of_find?_eq_some hm)).2
    rw [describe_of_fits hshown hfits, flatMap_text_pieces hk]
    have hlinks : ∀ l ∈ k.links, tokenText primary extras root version line l.1 ++ l.2 =
        r l.1 ++ l.2 := fun l hl => by rw [(replaced_iff hshown).1 (hr l hl)]
    exact congrArg (fun t => Except.ok (k.front ++ t)) (List.flatMap_congr hlinks)

/-- A message whose first token stands inside what looks like another one. -/
def nestedMessage : Message :=
  ⟨"f", "a [ [1]2] [3]", none, 4, 4, none⟩

/-- Messages that it may refer to: on its line, on another line, and in a file whose
    name holds a token. -/
def nestedExtras : List Message :=
  [⟨"f", "[1]", none, 4, 4, none⟩, ⟨"f", "[2]", none, 9, 9, none⟩,
    ⟨"/p/g [2]", "[3]", none, 7, 7, none⟩]

/-- The token that comes about when the first one is removed stays, and so does the
    one in the name of the file. -/
theorem describe_nestedMessage :
    (∀ m ∈ nestedExtras, FewDigits m.line ∧ FewDigits (10 + m.line)) ∧
    describe nestedMessage nestedExtras "/p" "1" (some (.whole 10)) =
      .ok "a [2] (see ./g [2]:7)" := by
  have hlines : ∀ m ∈ nestedExtras, FewDigits m.line ∧ FewDigits (10 + m.line) := by
    simp only [nestedExtras, List.forall_mem_cons]
    exact ⟨⟨fewDigits_of_lt (by decide), fewDigits_of_lt (by decide)⟩,
      ⟨fewDigits_of_lt (by decide), fewDigits_of_lt (by decide)⟩,
      ⟨fewDigits_of_lt (by decide), fewDigits_of_lt (by decide)⟩, by simp⟩
  have hk : (⟨"a [", [("[1]", "2]"), ("[3]", [])]⟩ : Cutting).Cuts nestedMessage.descr := by
    have hscan : Cutting.ofPieces (pieces nestedMessage.descr) =
        ⟨"a [", [("[1]", "2]"), ("[3]", [])]⟩ := by cbv
    exact hscan ▸ Cutting.cuts_ofPieces nestedMessage.descr
  have hseen : seeAlso "/p" "1" ⟨"/p/g [2]", "[3]", none, 7, 7, none⟩ = .ok "./g [2]:7" := by cbv
  obtain ⟨-, -, hfill, -, -⟩ := describe_eq_substitution nestedMessage nestedExtras "/p" "1" 10 hlines
  refine ⟨hlines, (hfill _ hk (fun token => if token = "[1]" then [] else " (see ./g [2]:7)") ?_).trans
    (by decide)⟩
  simp only [List.forall_mem_cons]
  refine ⟨?_, ?_, by simp⟩
  · exact .sameLine (isFirst_iff.2 rfl) rfl rfl
  · exact .elsewhere (isFirst_iff.2 rfl) (by decide) hseen

end FlowLens
