/-
  Strings in JSON text: every character is written in ASCII and read as it was written.

  * `Json.Escaped`: the four ways in which a code point is written, which are all that
    `Json.escape` has (`Json.escaped_escape`);
  * `Json.Escaped.readUnit_append`: a character is read back, one beyond the first plane
    from its surrogate pair;
  * `Json.readString_escaped`: a text without lone surrogates is read back;
  * `Json.ascii_printString`: any text is written in ASCII.
-/
import FlowLens.Json.Printer
import FlowLens.Json.Reader
import Mathlib

namespace FlowLens

/-- The numbers of characters leave out the surrogates. -/
theorem toNat_range (c : Char) : c.toNat < 0xD800 ∨ (0xDFFF < c.toNat ∧ c.toNat < 0x110000) :=
  c.valid

namespace CodePoint

theorem val_lt (c : CodePoint) : c.val < 0x110000 := by
  cases c with
  | char c =>
    have := toNat_range c
    simp only [val]
    omega
  | lone n =>
    have := n.isLt
    simp only [val]
    omega

theorem ofNat?_toNat (c : Char) : ofNat? c.toNat = some (.char c) := by
  have hvalid : c.toNat.isValidChar := c.valid
  rw [ofNat?, if_pos hvalid, Char.ofNat_toNat]

end CodePoint

namespace Text

/-- A text in which no surrogate stands alone. -/
def Whole (t : Text) : Prop :=
  ∀ n, .lone n ∉ t

theorem whole_ofString (s : String) : Whole s := by
  simp [Whole, ofString]

/-- A text of ASCII characters. -/
def Ascii (t : Text) : Prop :=
  ∀ c ∈ t, c.val < 0x80

instance (t : Text) : Decidable t.Ascii :=
  inferInstanceAs (Decidable (∀ c ∈ t, c.val < 0x80))

theorem ascii_cons_iff {c : CodePoint} {t : Text} : Ascii (c :: t) ↔ c.val < 0x80 ∧ t.Ascii :=
  List.forall_mem_cons

theorem ascii_append_iff {t t' : Text} : Ascii (t ++ t') ↔ t.Ascii ∧ t'.Ascii :=
  List.forall_mem_append

end Text

/-! ## Hexadecimal digits -/

theorem hexText_succ {width n : Nat} (hwidth : 0 < width) :
    hexText (width + 1) n = hexText width (n / 16) ++ [.char (n % 16).digitChar] := by
  obtain ⟨w, rfl⟩ : ∃ w, width = w + 1 := ⟨width - 1, by omega⟩
  by_cases hn : n < 16
  · have hzero : n / 16 = 0 := Nat.div_eq_of_lt hn
    simp only [hexText, hzero, Nat.toDigits_zero, Nat.toDigits_of_lt_base hn, Nat.mod_eq_of_lt hn,
      List.map_cons, List.map_nil, List.length_singleton, Nat.add_sub_cancel]
    rw [List.replicate_succ']
  · simp only [hexText, Nat.toDigits_of_base_le (show 1 < 16 by decide) (Nat.le_of_not_lt hn),
      List.map_append, List.map_cons, List.map_nil, List.length_append, List.length_singleton,
      Nat.add_sub_add_right, List.append_assoc]

theorem hexText_four {n : Nat} (h : n < 0x10000) :
    hexText 4 n = [n / 16 / 16 / 16, n / 16 / 16 % 16, n / 16 % 16, n % 16].map
      fun d => .char d.digitChar := by
  have hfirst : n / 16 / 16 / 16 < 16 := by omega
  rw [hexText_succ (by decide), hexText_succ (by decide), hexText_succ (by decide), hexText]
  simp [Nat.toDigits_of_lt_base hfirst]

theorem hexDigit?_digitChar : ∀ d < 16, (CodePoint.char d.digitChar).hexDigit? = some d := by
  decide

namespace Json

variable {c : CodePoint} {t rest : Text}

/-- A number of four hexadecimal digits is read back, if something follows it. -/
theorem takeQuad?_hexText {n : Nat} (h : n < 0x10000) (hrest : rest ≠ []) :
    takeQuad? (hexText 4 n ++ rest) = some (n, rest) := by
  obtain ⟨c, rest, rfl⟩ := List.exists_cons_of_ne_nil hrest
  have hquad : quad? (.char (n / 16 / 16 / 16).digitChar) (.char (n / 16 / 16 % 16).digitChar)
      (.char (n / 16 % 16).digitChar) (.char (n % 16).digitChar) = some n := by
    simp only [quad?, hexDigit?_digitChar _ (show n / 16 / 16 / 16 < 16 by omega),
      hexDigit?_digitChar _ (Nat.mod_lt _ (show 0 < 16 by decide))]
    show some (ofDigits 16 _) = some n
    simp only [ofDigits, List.foldl_cons, List.foldl_nil, Option.some.injEq]
    omega
  rw [hexText_four h]
  show (quad? _ _ _ _).map _ = _
  rw [hquad, Option.map_some]

theorem ascii_numberedEscape {n : Nat} (h : n < 0x10000) : (numberedEscape n).Ascii := by
  have hdigit : ∀ d < 16, (CodePoint.char d.digitChar).val < 0x80 := by decide
  have hmod : ∀ n, n % 16 < 16 := fun n => Nat.mod_lt n (by decide)
  rw [numberedEscape, hexText_four h]
  refine Text.ascii_append_iff.2 ⟨by decide, ?_⟩
  simp only [List.map_cons, List.map_nil, Text.ascii_cons_iff]
  exact ⟨hdigit _ (by omega), hdigit _ (hmod _), hdigit _ (hmod _), hdigit _ (hmod _), by decide⟩

/-! ## Code points by their numbers -/

theorem readUnit_numbered {n : Nat} (h : n < 0x10000) (hrest : rest ≠ []) :
    readUnit (numberedEscape n ++ rest) = numberedUnit n rest := by
  have hescape : numberedEscape n ++ rest =
      .char '\\' :: .char 'u' :: (hexText 4 n ++ rest) := rfl
  rw [hescape, readUnit, takeQuad?_hexText h hrest]

/-- The number of a character is no surrogate's, so nothing is looked for behind it. -/
theorem numberedUnit_of_char (c : Char) (rest : Text) :
    numberedUnit c.toNat rest = .ok (.unit (.char c) rest) := by
  have hnot : ¬ (0xD800 ≤ c.toNat ∧ c.toNat ≤ 0xDBFF) := by
    have := toNat_range c
    omega
  simp only [numberedUnit, if_neg hnot, CodePoint.ofNat?_toNat, Option.getD_some]

/-- A surrogate pair is joined again. -/
theorem numberedUnit_pair {c : Char} (h : 0x10000 ≤ c.toNat) (hrest : rest ≠ []) :
    numberedUnit (0xD800 + (c.toNat - 0x10000) / 0x400)
        (numberedEscape (0xDC00 + (c.toNat - 0x10000) % 0x400) ++ rest) =
      .ok (.unit (.char c) rest) := by
  have hrange := toNat_range c
  obtain ⟨n, hn⟩ : ∃ n, c.toNat - 0x10000 = n := ⟨_, rfl⟩
  have hhigh : 0xD800 ≤ 0xD800 + n / 0x400 ∧ 0xD800 + n / 0x400 ≤ 0xDBFF := by omega
  have hlow : 0xDC00 ≤ 0xDC00 + n % 0x400 ∧ 0xDC00 + n % 0x400 ≤ 0xDFFF := by omega
  have hplane : 0xDC00 + n % 0x400 < 0x10000 := by omega
  have hescape : numberedEscape (0xDC00 + n % 0x400) ++ rest =
      .char '\\' :: .char 'u' :: (hexText 4 (0xDC00 + n % 0x400) ++ rest) := rfl
  have hlength : ¬ (hexText 4 (0xDC00 + n % 0x400) ++ rest).length ≤ 4 := by
    have := List.length_pos_iff.2 hrest
    rw [hexText_four hplane]
    simp only [List.length_append, List.length_map, List.length_cons, List.length_nil]
    omega
  have hjoin : joinPair (0xD800 + n / 0x400) (0xDC00 + n % 0x400) = .char c := by
    have hvalue : 0x10000 + (0xD800 + n / 0x400 - 0xD800) * 0x400 +
        (0xDC00 + n % 0x400 - 0xDC00) = c.toNat := by omega
    rw [joinPair, hvalue, CodePoint.ofNat?_toNat, Option.getD_some]
  rw [hn, hescape, numberedUnit]
  simp only [if_pos hhigh, if_neg hlength, takeQuad?_hexText hplane hrest, if_pos hlow, hjoin]

/-! ## Characters -/

/-- The ways in which a code point is written in a string. -/
inductive Escaped : CodePoint → Text → Prop
  /-- A backslash and a letter. -/
  | letter {c d : Char} : plainEscape? (.char d) = some c → d ≠ 'u' →
      Escaped (.char c) [.char '\\', .char d]
  /-- As it is. -/
  | shown {c : CodePoint} : 0x20 ≤ c.val → c.val < 0x7F → c ≠ .char '"' → c ≠ .char '\\' →
      Escaped c [c]
  /-- By its number. -/
  | numbered {c : CodePoint} : c.val < 0x10000 → Escaped c (numberedEscape c.val)
  /-- By the numbers of a surrogate pair. -/
  | pair {c : CodePoint} : 0x10000 ≤ c.val →
      Escaped c (numberedEscape (0xD800 + (c.val - 0x10000) / 0x400) ++
        numberedEscape (0xDC00 + (c.val - 0x10000) % 0x400))

/-- **A code point is written in one of four ways.** -/
theorem escaped_escape (c : CodePoint) : Escaped c (escape c) := by
  unfold escape
  split
  · next h => exact h ▸ .letter rfl (by decide)
  next hquote =>
  split
  · next h => exact h ▸ .letter rfl (by decide)
  next hslash =>
  split
  · next h => exact h ▸ .letter rfl (by decide)
  split
  · next h => exact h ▸ .letter rfl (by decide)
  split
  · next h => exact h ▸ .letter rfl (by decide)
  split
  · next h => exact h ▸ .letter rfl (by decide)
  split
  · next h => exact h ▸ .letter rfl (by decide)
  split
  · next h => exact .shown h.1 h.2 hquote hslash
  split
  · next h => exact .numbered h
  · next h => exact .pair (Nat.le_of_not_lt h)

namespace Escaped

theorem ne_nil (h : Escaped c t) : t ≠ [] := by
  have hnumbered : ∀ n, numberedEscape n ≠ [] := fun n => List.cons_ne_nil _ _
  cases h with
  | letter | shown => exact List.cons_ne_nil _ _
  | numbered => exact hnumbered _
  | pair => exact List.append_ne_nil_of_left_ne_nil (hnumbered _) _

/-- **A character is read as it was written**, if something follows it. -/
theorem readUnit_append {c : Char} (h : Escaped (.char c) t) (hrest : rest ≠ []) :
    readUnit (t ++ rest) = .ok (.unit (.char c) rest) := by
  cases h with
  | @letter _ d hd hu =>
    have hletter : readUnit (.char '\\' :: .char d :: rest) = .ok (.unit (.char c) rest) := by
      rw [readUnit, hd]
      intro h
      exact hu (CodePoint.char.inj h)
    exact hletter
  | shown hlow _ hquote hslash =>
    rw [List.singleton_append, readUnit, if_neg (Nat.not_lt.2 hlow)]
    · exact hquote
    · exact fun h => absurd h hslash
    · exact fun _ h => absurd h hslash
    · exact fun _ _ h => absurd h hslash
  | numbered hplane =>
    exact (readUnit_numbered hplane hrest).trans (numberedUnit_of_char c rest)
  | pair hplane =>
    have hhigh : 0xD800 + (c.toNat - 0x10000) / 0x400 < 0x10000 := by
      have := toNat_range c
      omega
    rw [List.append_assoc]
    exact (readUnit_numbered hhigh (List.cons_ne_nil _ _)).trans (numberedUnit_pair hplane hrest)

theorem ascii (h : Escaped c t) : t.Ascii := by
  cases h with
  | letter hd _ =>
    refine Text.ascii_cons_iff.2 ⟨by decide, Text.ascii_cons_iff.2 ⟨?_, by decide⟩⟩
    unfold plainEscape? at hd
    split at hd
    case h_9 => cases hd
    all_goals next heq => exact heq ▸ by decide
  | shown _ hhigh _ _ =>
    exact Text.ascii_cons_iff.2 ⟨Nat.lt_of_lt_of_le hhigh (by decide), by decide⟩
  | numbered hplane => exact ascii_numberedEscape hplane
  | pair _ =>
    have := c.val_lt
    exact Text.ascii_append_iff.2
      ⟨ascii_numberedEscape (by omega), ascii_numberedEscape (by omega)⟩

end Escaped

/-! ## Strings -/

theorem length_le_length_flatMap_escape (t : Text) : t.length ≤ (t.flatMap escape).length := by
  induction t with
  | nil => simp
  | cons c rest ih =>
    have := List.length_pos_iff.2 (escaped_escape c).ne_nil
    rw [List.flatMap_cons, List.length_append, List.length_cons]
    omega

/-- **A text is read as it was written**, up to its closing quote. -/
theorem readString_escaped (ht : t.Whole) {fuel : Nat} (hfuel : t.length < fuel) (rest : Text) :
    readString fuel (t.flatMap escape ++ .char '"' :: rest) = .ok (t, rest) := by
  induction t generalizing fuel with
  | nil =>
    obtain ⟨fuel, rfl⟩ : ∃ k, fuel = k + 1 := ⟨fuel - 1, by omega⟩
    rfl
  | cons c t ih =>
    obtain ⟨fuel, rfl⟩ : ∃ k, fuel = k + 1 := ⟨fuel - 1, by omega⟩
    cases c with
    | lone n => exact absurd (List.mem_cons_self ..) (ht n)
    | char c =>
      have hunit := (escaped_escape (.char c)).readUnit_append
        (show t.flatMap escape ++ .char '"' :: rest ≠ [] by simp)
      have htail := ih (fun n hn => ht n (List.mem_cons_of_mem _ hn))
        (Nat.lt_of_succ_lt_succ hfuel)
      rw [List.flatMap_cons, List.append_assoc, readString, hunit]
      simp only [htail]
      rfl

/-- The length of what is left is fuel enough. -/
theorem readString_length (ht : t.Whole) (rest : Text) :
    readString ((t.flatMap escape ++ .char '"' :: rest).length + 1)
      (t.flatMap escape ++ .char '"' :: rest) = .ok (t, rest) := by
  refine readString_escaped ht ?_ rest
  have := length_le_length_flatMap_escape t
  rw [List.length_append]
  omega

/-- **Any text is written in ASCII.** -/
theorem ascii_printString (t : Text) : (printString t).Ascii := by
  refine Text.ascii_cons_iff.2 ⟨by decide, Text.ascii_append_iff.2 ⟨?_, by decide⟩⟩
  intro d hd
  obtain ⟨c, -, hd⟩ := List.mem_flatMap.1 hd
  exact (escaped_escape c).ascii d hd

end Json

end FlowLens
