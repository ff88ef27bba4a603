/-
  A snippet inside a document.  A position that is counted from the start of the
  snippet is moved to the position of the same code point, counted from the start
  of the document.

  * `Text.positionAt`, the line and the column of an index in a text, and
    `Text.extent`, the offset of what stands behind a text;
  * `Text.positionAt_append`: an index of the snippet and the same place in the
    document;
  * `Position.key`, by which positions are ordered, and `Position.key_moved_le_iff`:
    moving keeps that order.
-/
import FlowLens.Proofs.Wording
import Mathlib

namespace FlowLens

/-! ## Indices of a text -/

namespace Text

/-- The line of an index: the line feeds before it. -/
def lineAt (t : Text) (k : Nat) : Nat :=
  (t.take k).count (.char '\n')

/-- The column of an index: the code points between the last line feed and it. -/
def columnAt (t : Text) (k : Nat) : Nat :=
  ((t.take k).reverse.takeWhile (· ≠ .char '\n')).length

/-- The position of an index, with the distance that is told of it. -/
def positionAt (t : Text) (k : Nat) (offset : Option Int) : Position :=
  ⟨t.lineAt k, t.columnAt k, offset⟩

/-- Where a snippet starts that stands behind a text. -/
def extent (t : Text) : Offset :=
  .ofInts (t.lineAt t.length) (t.columnAt t.length)

variable {t : Text} {k : Nat}

theorem lineAt_eq_zero_iff : t.lineAt k = 0 ↔ ∀ c ∈ t.take k, c ≠ .char '\n' := by
  rw [lineAt, List.count_eq_zero]
  exact ⟨fun h c hc he => h (he ▸ hc), fun h hc => h _ hc rfl⟩

/-- On the first line the column counts everything before the index. -/
theorem columnAt_of_lineAt_eq_zero (h : t.lineAt k = 0) : t.columnAt k = (t.take k).length := by
  rw [columnAt, List.takeWhile_eq_self_iff.2, List.length_reverse]
  intro c hc
  simpa using lineAt_eq_zero_iff.1 h c (List.mem_reverse.1 hc)

theorem lineAt_append (before snippet : Text) (i : Nat) :
    (before ++ snippet).lineAt (before.length + i) =
      before.lineAt before.length + snippet.lineAt i := by
  rw [lineAt, lineAt, lineAt, List.take_length_add_append, List.count_append, List.take_length]

/-- What stands before the snippet counts for the columns of its first line only. -/
theorem columnAt_append (before snippet : Text) (i : Nat) :
    (before ++ snippet).columnAt (before.length + i) =
      if snippet.lineAt i = 0 then before.columnAt before.length + snippet.columnAt i
      else snippet.columnAt i := by
  have htake : ((before ++ snippet).take (before.length + i)).reverse =
      (snippet.take i).reverse ++ before.reverse := by
    rw [List.take_length_add_append, List.reverse_append]
  rw [columnAt, htake, List.takeWhile_append]
  split_ifs with hfull hline hline
  · rw [columnAt_of_lineAt_eq_zero hline, columnAt, List.take_length, List.length_append,
      List.length_reverse, Nat.add_comm]
  · -- a line feed before the index ends the columns
    refine absurd (lineAt_eq_zero_iff.2 fun c hc => ?_) hline
    have hself := List.IsPrefix.eq_of_length (List.takeWhile_prefix _) hfull
    have hall := List.takeWhile_eq_self_iff.1 hself c (List.mem_reverse.2 hc)
    simpa using hall
  · refine absurd ?_ hfull
    have hcolumn := columnAt_of_lineAt_eq_zero hline
    rw [columnAt] at hcolumn
    rw [hcolumn, List.length_reverse]
  · rfl

/-- **An index of the snippet and the same place in the document.** -/
theorem positionAt_append (before snippet : Text) (i : Nat) (offset : Option Int) :
    (snippet.positionAt i offset).moved (before.lineAt before.length)
        (before.columnAt before.length) =
      (before ++ snippet).positionAt (before.length + i) offset := by
  simp only [positionAt, Position.moved, lineAt_append, columnAt_append, Nat.cast_add,
    Int.natCast_eq_zero]
  split_ifs <;> simp

end Text

/-! ## The order of positions -/

namespace Position

variable {p q : Position} {line column : Int}

/-- Positions are ordered by their lines, and on one line by their columns. -/
def key (p : Position) : Lex (Int × Int) :=
  toLex (p.line, p.column)

theorem key_le_iff : p.key ≤ q.key ↔ p.line < q.line ∨ p.line = q.line ∧ p.column ≤ q.column :=
  Prod.Lex.toLex_le_toLex

/-- Two positions on one line are moved by the same columns, and two on different
    lines keep the order of their lines. -/
theorem key_moved_le_iff :
    (p.moved line column).key ≤ (q.moved line column).key ↔ p.key ≤ q.key := by
  rw [key_le_iff, key_le_iff]
  unfold moved
  rcases lt_trichotomy p.line q.line with hlt | heq | hgt
  · simp [hlt]
  · rw [heq]
    split_ifs <;> simp
  · simp [hgt.not_gt, hgt.ne']

theorem moved_inj : p.moved line column = q.moved line column ↔ p = q := by
  refine ⟨fun h => ?_, fun h => by rw [h]⟩
  obtain ⟨hline, hcolumn, hoffset⟩ := Position.mk.inj h
  have hlines : p.line = q.line := by omega
  rw [hlines] at hcolumn
  have hcolumns : p.column = q.column := by
    split_ifs at hcolumn <;> omega
  cases p
  cases q
  simp_all

end Position

/-- **A snippet is moved to where it stands in its document.**  If the offset is
    where the text before the snippet ends, then the place of any two indices of
    the snippet is moved to the span of the same two indices in the document, with
    their distances as given.  Any offset of two integers keeps the order of
    positions, and no two positions are moved to the same one. -/
theorem shiftPlace_embeds (before snippet : Text) :
    (∀ (i j : Nat) (source kind : Option Text) (a b : Option Int),
      before.extent.shiftPlace
          (some ⟨source, snippet.positionAt i a, snippet.positionAt j b, kind⟩) =
        .ok ⟨(before ++ snippet).positionAt (before.length + i) a,
          (before ++ snippet).positionAt (before.length + j) b⟩) ∧
    ∀ line column : Int,
      (∀ p q : Position, ∃ p' q', (Offset.ofInts line column).shift p = .ok p' ∧
        (Offset.ofInts line column).shift q = .ok q' ∧
        (p'.key ≤ q'.key ↔ p.key ≤ q.key) ∧ (p' = q' ↔ p = q)) ∧
      ∀ p q : Place, (Offset.ofInts line column).shiftPlace (some p) =
          (Offset.ofInts line column).shiftPlace (some q) ↔
        p.start = q.start ∧ p.stop = q.stop := by
  refine ⟨fun i j source kind a b => ?_, fun line column => ⟨fun p q => ?_, fun p q => ?_⟩⟩
  · rw [Text.extent, Offset.shiftPlace_ofInts, Place.moved, Text.positionAt_append,
      Text.positionAt_append]
  · exact ⟨_, _, Offset.shift_ofInts line column p, Offset.shift_ofInts line column q,
      Position.key_moved_le_iff, Position.moved_inj⟩
  · rw [Offset.shiftPlace_ofInts, Offset.shiftPlace_ofInts, Except.ok.injEq, Place.moved,
      Place.moved, Span.mk.injEq, Position.moved_inj, Position.moved_inj]

end FlowLens
