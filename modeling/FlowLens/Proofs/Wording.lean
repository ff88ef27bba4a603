/-
  What is told about a single entry when the offset of the snippet is two
  integers.  Nothing can then go wrong but the writing of a line that has too
  many digits in the document around the snippet.

  * `Position.moved` and `Offset.shift_ofInts`: where a position is moved to;
  * `Entry.wording`: the description with its references resolved, as a text;
  * `Entry.Tellable`: each line that the description has to name is writable;
  * `Entry.diagnostic_of_tellable` and `Entry.diagnostic_of_not_tellable`: the
    diagnostic of an entry, and when there is none.
-/
import FlowLens.Checker.Collect
import FlowLens.Proofs.DigitLimit

namespace FlowLens

section
variable {ε α β : Type} {f : α → Except ε β} {l : List α}

theorem mapM_eq_ok {g : α → β} (h : ∀ a ∈ l, f a = .ok (g a)) : l.mapM f = .ok (l.map g) := by
  induction l with
  | nil => rfl
  | cons a rest ih =>
    rw [List.mapM_cons, h a (List.mem_cons_self ..), ih fun b hb => h b (List.mem_cons_of_mem _ hb)]
    rfl

theorem mapM_eq_error {e : ε} (h : ∀ a ∈ l, (∃ b, f a = .ok b) ∨ f a = .error e)
    (hexists : ∃ a ∈ l, f a = .error e) : l.mapM f = .error e := by
  induction l with
  | nil => obtain ⟨a, ha, -⟩ := hexists; cases ha
  | cons a rest ih =>
    rw [List.mapM_cons]
    rcases h a (List.mem_cons_self ..) with ⟨b, hb⟩ | ha
    · have hrest : ∃ c ∈ rest, f c = .error e := by
        obtain ⟨c, hc, he⟩ := hexists
        rcases List.mem_cons.1 hc with rfl | hc
        · rw [hb] at he; cases he
        · exact ⟨c, hc, he⟩
      rw [hb, ih (fun c hc => h c (List.mem_cons_of_mem _ hc)) hrest]
      rfl
    · rw [ha]; rfl

end

/-! ## Positions -/

/-- A position of a snippet in the document around it, where `line` lines stand
    before the snippet and `column` columns before its first line. -/
def Position.moved (line column : Int) (p : Position) : Position :=
  ⟨line + p.line, if p.line = 0 then column + p.column else p.column, p.offset⟩

/-- A place of a snippet in the document around it; without one, the start of
    the second line. -/
def Place.moved (line column : Int) (place : Option Place) : Span :=
  match place with
  | some p => ⟨p.start.moved line column, p.stop.moved line column⟩
  | none => ⟨Position.moved line column ⟨1, 1, some 0⟩, Position.moved line column ⟨1, 1, some 0⟩⟩

namespace Offset

theorem plus_ofInts (n k : Int) : plus (some (.whole n)) k = .ok (.whole (n + k)) := rfl

theorem position_whole (line column : Int) (offset : Option Int) :
    position (.whole line) (.whole column) offset = .ok ⟨line, column, offset⟩ := rfl

theorem shift_ofInts (line column : Int) (p : Position) :
    (ofInts line column).shift p = .ok (p.moved line column) := by
  unfold shift Position.moved
  split_ifs with h
  · simp only [ofInts, plus_ofInts, bind, Except.bind, position_whole]
  · simp only [ofInts, plus_ofInts, bind, Except.bind, position_whole]

theorem shiftPlace_ofInts (line column : Int) (place : Option Place) :
    (ofInts line column).shiftPlace place = .ok (Place.moved line column place) := by
  cases place with
  | none =>
    simp only [shiftPlace, Option.map_none, Option.getD_none, shift_ofInts, Place.moved, bind,
      Except.bind, pure, Except.pure]
  | some p =>
    simp only [shiftPlace, Option.map_some, Option.getD_some, shift_ofInts, Place.moved, bind,
      Except.bind, pure, Except.pure]

end Offset

/-! ## References -/

/-- Where a message in another file stands, in words. -/
def Message.whereabouts (root version : Text) (m : Message) : Text :=
  if m.place.any (·.isLibrary) then
    "https://github.com/facebook/flow/blob/v" ++ version ++ "/lib/" ++ fileName m.path ++ "#L" ++
      intText m.line
  else
    .char '.' :: ((Text.removeFirst root m.path).replaceAll (.char '\\') (.char '/') ++
      .char ':' :: intText m.line)

theorem seeAlso_of_fewDigits {root version : Text} {m : Message} (h : FewDigits m.line) :
    seeAlso root version m = .ok (m.whereabouts root version) := by
  unfold seeAlso Message.whereabouts
  rw [boundedIntText_of_fewDigits h]
  simp only [bind, Except.bind]
  split_ifs <;> rfl

section
variable (primary : Message) (references : List Message) (root version : Text) (line : Int)

/-- What a token stands for: nothing if its message is on the line of the
    primary one, and the token itself if there is no such message. -/
def tokenText (token : Text) : Text :=
  match references.find? (·.descr = token) with
  | none => .char ' ' :: token
  | some m =>
    if m.path ≠ primary.path then " (see " ++ m.whereabouts root version ++ ")"
    else if m.line = primary.line then []
    else " (see line " ++ intText (line + m.line) ++ ")"

/-- What a piece of a description stands for. -/
def Piece.text : Piece → Text
  | plain c => [c]
  | token t => tokenText primary references root version line t

/-- If a token stands for a line of the document, that line is writable. -/
def TokenFits (token : Text) : Prop :=
  ∀ m, references.find? (·.descr = token) = some m → m.path = primary.path →
    m.line ≠ primary.line → FewDigits (line + m.line)

end

section
variable {primary : Message} {references : List Message} {root version : Text} {line : Int}
  {token : Text}

theorem resolveToken_of_fits (hlines : ∀ m ∈ references, FewDigits m.line)
    (h : TokenFits primary references line token) :
    resolveToken primary references root version (some (.whole line)) token =
      .ok (tokenText primary references root version line token) := by
  unfold resolveToken tokenText
  cases hm : references.find? (·.descr = token) with
  | none => rfl
  | some m =>
    dsimp only
    split_ifs with hpath hline
    · rw [seeAlso_of_fewDigits (hlines m (List.mem_of_find?_eq_some hm))]
    · rfl
    · have hfew := h m hm (not_not.1 hpath) hline
      simp only [documentLine, Offset.plus_ofInts, bind, Except.bind, Amount.text,
        boundedIntText_of_fewDigits hfew, Except.map]

theorem resolveToken_of_not_fits (h : ¬ TokenFits primary references line token) :
    resolveToken primary references root version (some (.whole line)) token =
      .error (.tooLong .writing) := by
  simp only [TokenFits, not_forall] at h
  obtain ⟨m, hm, hpath, hline, hmany⟩ := h
  unfold resolveToken
  rw [hm]
  simp only [hpath, ne_eq, not_true_eq_false, hline, if_false, documentLine, Offset.plus_ofInts,
    bind, Except.bind, Amount.text, boundedIntText_of_not_fewDigits hmany, Except.map]

theorem describe_of_fits (hlines : ∀ m ∈ references, FewDigits m.line)
    (h : ∀ token, .token token ∈ pieces primary.descr → TokenFits primary references line token) :
    describe primary references root version (some (.whole line)) =
      .ok ((pieces primary.descr).flatMap (Piece.text primary references root version line)) := by
  unfold describe
  rw [mapM_eq_ok (g := Piece.text primary references root version line)]
  · rfl
  · intro piece hpiece
    cases piece with
    | plain c => rfl
    | token t => exact resolveToken_of_fits hlines (h t hpiece)

theorem describe_of_not_fits (hlines : ∀ m ∈ references, FewDigits m.line)
    (h : ¬ ∀ token, .token token ∈ pieces primary.descr →
      TokenFits primary references line token) :
    describe primary references root version (some (.whole line)) = .error (.tooLong .writing) := by
  simp only [not_forall] at h
  obtain ⟨token, hmem, hmisfit⟩ := h
  unfold describe
  rw [mapM_eq_error (e := OffsetFault.tooLong .writing) ?_
    ⟨Piece.token token, hmem, resolveToken_of_not_fits hmisfit⟩]
  · rfl
  · intro piece _
    cases piece with
    | plain c => exact Or.inl ⟨_, rfl⟩
    | token t =>
      by_cases hfits : TokenFits primary references line t
      · exact Or.inl ⟨_, resolveToken_of_fits hlines hfits⟩
      · exact Or.inr (resolveToken_of_not_fits hfits)

end

/-! ## Entries -/

namespace Entry

/-- What is told about an entry: the plain description, or the description with
    its tokens replaced if there are messages to refer to. -/
def wording (root version : Text) (line : Int) (e : Entry) : Text :=
  if e.references = [] then e.primary.descr
  else (pieces e.primary.descr).flatMap (Piece.text e.primary e.references root version line)

/-- Every line of the document that the description has to name is writable. -/
def Tellable (line : Int) (e : Entry) : Prop :=
  ∀ token, .token token ∈ pieces e.primary.descr → TokenFits e.primary e.references line token

/-- The diagnostic for an entry. -/
def telling (root version : Text) (line column : Int) (raw : Option Members) (e : Entry) :
    Diagnostic :=
  let message := e.wording root version line
  let span := Place.moved line column e.primary.place
  { rule := some (.ofMessage message)
    severity := e.severity
    message := message
    path := some e.primary.path
    startLine := some span.start.line
    endLine := some span.stop.line
    span := span
    raw := raw }

variable {root version : Text} {line column : Int} {raw : Option Members} {e : Entry}

/-- Without messages to refer to, nothing has to be named. -/
theorem tellable_of_references_eq_nil (h : e.references = []) : e.Tellable line := by
  intro token _ m hm
  rw [h] at hm
  cases hm

theorem describe_of_references_ne_nil (h : e.references ≠ []) (offset : Offset) :
    e.describe root version offset =
      FlowLens.describe e.primary e.references root version offset.line := by
  unfold describe
  cases hr : e.references with
  | nil => exact absurd hr h
  | cons m rest => rfl

theorem describe_of_tellable (hlines : ∀ m ∈ e.references, FewDigits m.line)
    (h : e.Tellable line) :
    e.describe root version (.ofInts line column) = .ok (e.wording root version line) := by
  by_cases hr : e.references = []
  · rw [describe, hr, wording, if_pos hr]
  · rw [describe_of_references_ne_nil hr, wording, if_neg hr]
    exact describe_of_fits hlines h

theorem describe_of_not_tellable (hlines : ∀ m ∈ e.references, FewDigits m.line)
    (h : ¬ e.Tellable line) :
    e.describe root version (.ofInts line column) = .error (.tooLong .writing) := by
  rw [describe_of_references_ne_nil fun hr => h (tellable_of_references_eq_nil hr)]
  exact describe_of_not_fits hlines h

theorem diagnostic_of_tellable (hlines : ∀ m ∈ e.references, FewDigits m.line)
    (h : e.Tellable line) :
    e.diagnostic root version (.ofInts line column) raw =
      .ok (e.telling root version line column raw) := by
  unfold diagnostic
  rw [describe_of_tellable hlines h, Offset.shiftPlace_ofInts]
  rfl

theorem diagnostic_of_not_tellable (hlines : ∀ m ∈ e.references, FewDigits m.line)
    (h : ¬ e.Tellable line) :
    e.diagnostic root version (.ofInts line column) raw = .error (.tooLong .writing) := by
  unfold diagnostic
  rw [describe_of_not_tellable hlines h]
  rfl

end Entry

end FlowLens
