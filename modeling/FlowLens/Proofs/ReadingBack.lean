/-
  JSON text is read as the value that it was printed for.

  * `Json.readNumber?_intText`: an integer is read back, if it has few enough digits;
  * `Json.Portable`: the values that come back as they are, and `Json.ReadsBack`, that one
    does at every depth, whatever may follow it;
  * `Json.readItems_printItems` and `Json.readMembers_printMembers`: one step of a list
    and of an object, and with them `Json.Portable.readsBack`;
  * `Json.Portable.ascii_printAt`: it is all ASCII;
  * `printed_reads_back`: so is what a command prints.
-/
import FlowLens.Proofs.CommandVerdict
import FlowLens.Proofs.DigitLimit
import FlowLens.Proofs.Escapes
import FlowLens.Proofs.Fields
import FlowLens.Proofs.Whereabouts
import Mathlib

namespace FlowLens

/-! ## Digits -/

theorem isAsciiDigit_of_mem_natText {n : Nat} {c : CodePoint} (h : c ∈ natText n) :
    c.isAsciiDigit = true := by
  obtain ⟨d, hd, rfl⟩ := exists_digit_of_mem_natText h
  simp only [Char.isDigit, ge_iff_le, Bool.and_eq_true, decide_eq_true_eq] at hd
  rw [CodePoint.isAsciiDigit, Bool.and_eq_true]
  exact ⟨decide_eq_true hd.1, decide_eq_true hd.2⟩

theorem foldl_asciiDigit {ds : List Char} (h : ∀ d ∈ ds, (CodePoint.char d).isAsciiDigit = true)
    (n : Nat) :
    (ds.map fun d => (CodePoint.char d).asciiDigit?.getD 0).foldl (fun n d => n * 10 + d) n =
      Nat.ofDigitChars 10 ds n := by
  induction ds generalizing n with
  | nil => rfl
  | cons d rest ih =>
    rw [List.forall_mem_cons] at h
    have hd : (CodePoint.char d).asciiDigit?.getD 0 = d.toNat - '0'.toNat := by
      have hrange := h.1
      unfold CodePoint.isAsciiDigit at hrange
      rw [CodePoint.asciiDigit?, if_pos hrange]
      rfl
    rw [List.map_cons, List.foldl_cons, ih h.2, hd, Nat.ofDigitChars_cons, Nat.mul_comm 10]

/-- **The digits of a natural number are read as that number.** -/
theorem asciiNat_natText (n : Nat) : asciiNat (natText n) = n := by
  have hdigits : ∀ d ∈ Nat.toDigits 10 n, (CodePoint.char d).isAsciiDigit = true :=
    fun d hd => isAsciiDigit_of_mem_natText (List.mem_map_of_mem hd)
  rw [asciiNat, ofDigits, natText, List.map_map]
  exact (foldl_asciiDigit hdigits 0).trans Nat.ofDigitChars_ten_toDigits

theorem exists_cons_natText (n : Nat) : ∃ d t, natText n = d :: t :=
  List.exists_cons_of_ne_nil (by simp [natText])

/-- Only zero is written with a zero in front. -/
theorem eq_zero_of_natText {n : Nat} {t : Text} (h : natText n = .char '0' :: t) : n = 0 := by
  have hvalue : n = asciiNat t := by
    calc n = asciiNat (natText n) := (asciiNat_natText n).symm
      _ = asciiNat t := by rw [h]; rfl
  have hlt : n < 10 ^ t.length := hvalue ▸ asciiNat_lt t
  have hlength : (Nat.toDigits 10 n).length = t.length + 1 := by
    rw [← List.length_map CodePoint.char, ← natText, h, List.length_cons]
  cases t with
  | nil => simpa using hlt
  | cons c rest =>
    have := (Nat.length_toDigits_le_iff (by decide) (by simp)).2 hlt
    omega

theorem exists_cons_intText (n : Int) : ∃ c t, intText n = c :: t := by
  unfold intText
  split_ifs
  · exact ⟨_, _, rfl⟩
  · exact exists_cons_natText n.natAbs

theorem ne_of_mem_intText {n : Int} {c : CodePoint} (h : c ∈ intText n) {x : Char}
    (hdigit : x.isDigit = false) (hminus : x ≠ '-') : c ≠ .char x := by
  rintro rfl
  exact not_mem_intText hdigit hminus n h

theorem ascii_intText (n : Int) : (intText n).Ascii := by
  have hnat : (natText n.natAbs).Ascii := by
    intro c hc
    obtain ⟨d, hd, rfl⟩ := exists_digit_of_mem_natText hc
    simp only [Char.isDigit, ge_iff_le, Bool.and_eq_true, decide_eq_true_eq] at hd
    exact Nat.lt_of_le_of_lt hd.2 (by decide)
  unfold intText
  split_ifs
  · exact Text.ascii_cons_iff.2 ⟨by decide, hnat⟩
  · exact hnat

namespace Json

variable {rest : Text}

/-! ## Numbers -/

/-- What may stand behind a value: nothing, a comma or the end of a line. -/
def Follows (rest : Text) : Prop :=
  ∀ c ∈ rest.head?, c = .char ',' ∨ c = .char '\n'

theorem follows_comma (t : Text) : Follows (.char ',' :: t) := by
  rintro c ⟨⟩
  exact .inl rfl

theorem follows_newLine (depth : Nat) (t : Text) : Follows (newLine depth ++ t) := by
  rintro c ⟨⟩
  exact .inr rfl

theorem takeDigits_append {digits : Text} (hdigits : ∀ c ∈ digits, c.isAsciiDigit = true)
    (hrest : Follows rest) : takeDigits (digits ++ rest) = (digits, rest) := by
  have hstop : rest.takeWhile CodePoint.isAsciiDigit = [] ∧
      rest.dropWhile CodePoint.isAsciiDigit = rest := by
    cases rest with
    | nil => exact ⟨rfl, rfl⟩
    | cons c rest => rcases hrest c rfl with rfl | rfl <;> exact ⟨rfl, rfl⟩
  rw [takeDigits, List.span_eq_takeWhile_dropWhile, List.takeWhile_append_of_pos hdigits,
    List.dropWhile_append_of_pos hdigits, hstop.1, hstop.2, List.append_nil]

theorem takeWhole?_natText (n : Nat) (hrest : Follows rest) :
    takeWhole? (natText n ++ rest) = some (natText n, rest) := by
  have hdigits : takeDigits (natText n ++ rest) = (natText n, rest) :=
    takeDigits_append (fun c hc => isAsciiDigit_of_mem_natText hc) hrest
  obtain ⟨c, t, hn⟩ := exists_cons_natText n
  by_cases hzero : c = .char '0'
  · subst hzero
    obtain rfl := eq_zero_of_natText hn
    rfl
  · rw [hn] at hdigits ⊢
    unfold takeWhole?
    split
    · next heq => exact absurd (List.cons.inj heq).1 hzero
    · rw [hdigits]

theorem takeFraction?_of_follows (hrest : Follows rest) : takeFraction? rest = none := by
  unfold takeFraction?
  split
  · rcases hrest _ rfl with h | h <;> cases h
  · rfl

theorem takeExponent?_of_follows (hrest : Follows rest) : takeExponent? rest = none := by
  unfold takeExponent?
  split
  · next c _ =>
    have hc : ¬ (c = 'e' ∨ c = 'E') := by
      rcases hrest _ rfl with h | h <;> cases h <;> decide
    rw [if_neg hc]
  · rfl

theorem readMagnitude?_natText (negative : Bool) {n : Nat} (hn : n < 10 ^ digitLimit)
    (hrest : Follows rest) :
    readMagnitude? negative (natText n ++ rest) = some (.ok (.int (signed negative n), rest)) := by
  have hlength : (natText n).length ≤ digitLimit := by
    rw [natText, List.length_map]
    exact (Nat.length_toDigits_le_iff (by decide) (by decide)).2 hn
  rw [readMagnitude?, takeWhole?_natText n hrest, Option.map_some]
  simp only [takeFraction?_of_follows hrest, takeExponent?_of_follows hrest, wholeNumber,
    if_pos hlength, asciiNat_natText]
  rfl

/-- **An integer is read as it was written**, if it has few enough digits. -/
theorem readNumber?_intText {n : Int} (hn : FewDigits n) (hrest : Follows rest) :
    readNumber? (intText n ++ rest) = some (.ok (.int n, rest)) := by
  by_cases hneg : n < 0
  · have hsigned : signed true n.natAbs = n := by
      simp only [signed, if_true]
      omega
    rw [intText, if_pos hneg, List.cons_append, readNumber?, readMagnitude?_natText true hn hrest,
      hsigned]
  · have hsigned : signed false n.natAbs = n := by
      simp only [signed, Bool.false_eq_true, if_false]
      omega
    rw [intText, if_neg hneg]
    unfold readNumber?
    split
    · next heq =>
      obtain ⟨c, t, hc⟩ := exists_cons_natText n.natAbs
      rw [hc] at heq
      cases heq
      exact absurd (hc ▸ List.mem_cons_self ..) (minus_not_mem_natText n.natAbs)
    · rw [readMagnitude?_natText false hn hrest, hsigned]

/-- No word has a digit in one of its first two places. -/
theorem no_digit_of_mem_words : ∀ w ∈ words, ∃ a b t, w.1 = a :: b :: t ∧
    a.isAsciiDigit = false ∧ b.isAsciiDigit = false := by
  simp only [words, List.forall_mem_cons]
  exact ⟨⟨_, _, _, rfl, rfl, rfl⟩, ⟨_, _, _, rfl, rfl, rfl⟩, ⟨_, _, _, rfl, rfl, rfl⟩,
    ⟨_, _, _, rfl, rfl, rfl⟩, ⟨_, _, _, rfl, rfl, rfl⟩, ⟨_, _, _, rfl, rfl, rfl⟩, by simp⟩

/-- A number is no word, although one word starts with a minus sign too. -/
theorem readWord?_intText (n : Int) (rest : Text) : readWord? (intText n ++ rest) = none := by
  obtain ⟨d, t, hn⟩ := exists_cons_natText n.natAbs
  have hd : d.isAsciiDigit = true := isAsciiDigit_of_mem_natText (hn ▸ List.mem_cons_self ..)
  rw [readWord?, Option.map_eq_none_iff, List.find?_eq_none]
  intro w hw hstart
  obtain ⟨a, b, u, hword, ha, hb⟩ := no_digit_of_mem_words w hw
  rw [hword, intText, hn] at hstart
  split_ifs at hstart
  · simp only [List.cons_append, List.isPrefixOf_cons_cons, Bool.and_eq_true, beq_iff_eq] at hstart
    rw [hstart.2.1, hd] at hb
    cases hb
  · simp only [List.cons_append, List.isPrefixOf_cons_cons, Bool.and_eq_true, beq_iff_eq] at hstart
    rw [hstart.1, hd] at ha
    cases ha

theorem readValue_intText {n : Int} (hn : FewDigits n) (hrest : Follows rest) (fuel : Nat) :
    readValue (fuel + 1) (intText n ++ rest) = .ok (.int n, rest) := by
  have hatom : readAtom (intText n ++ rest) = .ok (.int n, rest) := by
    rw [readAtom, readWord?_intText, readNumber?_intText hn hrest]
  obtain ⟨c, t, hc⟩ := exists_cons_intText n
  have hmem : c ∈ intText n := hc ▸ List.mem_cons_self ..
  rw [hc, List.cons_append] at hatom ⊢
  unfold readValue
  split
  · next heq => exact absurd (List.cons.inj heq).1 (ne_of_mem_intText hmem rfl (by decide))
  · next heq => exact absurd (List.cons.inj heq).1 (ne_of_mem_intText hmem rfl (by decide))
  · next heq => exact absurd (List.cons.inj heq).1 (ne_of_mem_intText hmem rfl (by decide))
  · exact hatom

/-! ## Portable values -/

/-- The values that come back: objects whose members are all called differently, lists,
    texts without lone surrogates, integers that may be written, truth values and null. -/
inductive Portable : Value → Prop
  | null : Portable .null
  | bool (b : Bool) : Portable (.bool b)
  | int {n : Int} : FewDigits n → Portable (.int n)
  | str {t : Text} : t.Whole → Portable (.str t)
  | arr {items : List Value} : (∀ v ∈ items, Portable v) → Portable (.arr items)
  | obj {members : Members} : (members.map (·.1)).Nodup → (∀ m ∈ members, Text.Whole m.1) →
      (∀ m ∈ members, Portable m.2) → Portable (.obj members)

/-- A code point that no gap, no empty list and no byte order mark starts with. -/
def Opens (c : CodePoint) : Prop :=
  isGap c = false ∧ c ≠ .char ']' ∧ c ≠ .char '\ufeff'

instance (c : CodePoint) : Decidable (Opens c) :=
  inferInstanceAs (Decidable (_ ∧ _))

theorem opens_of_mem_intText {n : Int} {c : CodePoint} (h : c ∈ intText n) : Opens c := by
  have hne : ∀ x : Char, x.isDigit = false → x ≠ '-' → c ≠ .char x :=
    fun x hdigit hminus => ne_of_mem_intText h hdigit hminus
  refine ⟨?_, hne ']' rfl (by decide), hne '\ufeff' rfl (by decide)⟩
  simp [isGap, hne ' ' rfl (by decide), hne '\t' rfl (by decide), hne '\n' rfl (by decide),
    hne '\r' rfl (by decide)]

section Opening

variable {v : Value} (hv : Portable v) (depth : Nat)

include hv

theorem exists_opens_printAt : ∃ c t, printAt depth v = c :: t ∧ Opens c := by
  cases hv with
  | null => exact ⟨_, _, by rw [printAt]; rfl, by decide⟩
  | bool b => cases b <;> exact ⟨_, _, by rw [printAt]; rfl, by decide⟩
  | @int n =>
    obtain ⟨c, t, hc⟩ := exists_cons_intText n
    exact ⟨c, t, by rw [printAt, hc], opens_of_mem_intText (hc ▸ List.mem_cons_self ..)⟩
  | str => exact ⟨_, _, by rw [printAt]; rfl, by decide⟩
  | arr | obj =>
    rw [printAt]
    split_ifs
    · exact ⟨_, _, rfl, by decide⟩
    · exact ⟨_, _, rfl, by decide⟩

theorem exists_opens_printItems (items : List Value) :
    ∃ c t, printItems depth (v :: items) = c :: t ∧ Opens c := by
  obtain ⟨c, t, hc, hopens⟩ := exists_opens_printAt hv depth
  cases items with
  | nil => exact ⟨c, t, by rw [printItems, hc], hopens⟩
  | cons w items => exact ⟨c, _, by rw [printItems, hc, List.cons_append], hopens⟩

theorem exists_fuel {fuel : Nat} (hfuel : (printAt depth v).length ≤ fuel) :
    ∃ k, fuel = k + 1 := by
  obtain ⟨c, t, hc, -⟩ := exists_opens_printAt hv depth
  rw [hc, List.length_cons] at hfuel
  exact ⟨fuel - 1, by omega⟩

end Opening

theorem exists_quote_printMembers (depth : Nat) (m : Text × Value)
    (members : List (Text × Value)) :
    ∃ t, printMembers depth (m :: members) = .char '"' :: t := by
  cases members with
  | nil => exact ⟨_, by rw [printMembers]; rfl⟩
  | cons => exact ⟨_, by rw [printMembers]; rfl⟩

theorem skipGap_newLine (depth : Nat) {c : CodePoint} (hc : isGap c = false) (t : Text) :
    skipGap (newLine depth ++ c :: t) = c :: t := by
  have hline : ∀ d ∈ newLine depth, isGap d = true := by
    intro d hd
    rcases List.mem_cons.1 hd with rfl | hd
    · rfl
    · rw [List.eq_of_mem_replicate hd]
      rfl
  rw [skipGap, List.dropWhile_append_of_pos hline, List.dropWhile_cons_of_neg (by simp [hc])]

theorem skipGap_comma (t : Text) : skipGap (.char ',' :: t) = .char ',' :: t :=
  rfl

/-! ## Lists and objects -/

/-- A value is read as it was written, at every depth and before all that may follow it.
    Its own text is fuel enough. -/
def ReadsBack (v : Value) : Prop :=
  ∀ depth fuel rest, (printAt depth v).length ≤ fuel → Follows rest →
    readValue fuel (printAt depth v ++ rest) = .ok (v, rest)

theorem printString_append (t rest : Text) :
    printString t ++ rest = .char '"' :: (t.flatMap escape ++ .char '"' :: rest) := by
  simp [printString]

theorem printMember_append (name t rest : Text) :
    printString name ++ ": " ++ t ++ rest =
      .char '"' :: (name.flatMap escape ++ .char '"' :: .char ':' :: .char ' ' :: (t ++ rest)) := by
  rw [List.append_assoc, List.append_assoc, printString_append]
  rfl

theorem readName_escaped {name : Text} (hname : name.Whole) {v : Value} (hv : Portable v)
    (depth : Nat) (rest : Text) :
    readName (name.flatMap escape ++ .char '"' :: .char ':' :: .char ' ' ::
      (printAt depth v ++ rest)) = .ok (name, printAt depth v ++ rest) := by
  obtain ⟨c, t, hc, hopens⟩ := exists_opens_printAt hv depth
  have hgap : skipGap (.char ' ' :: c :: (t ++ rest)) = c :: (t ++ rest) := by
    rw [skipGap, List.dropWhile_cons_of_pos rfl, List.dropWhile_cons_of_neg (by simp [hopens.1])]
  rw [hc, List.cons_append, readName, readString_length hname]
  show Except.ok (name, skipGap (.char ' ' :: c :: (t ++ rest))) = _
  rw [hgap]

section Inside

variable {depth fuel : Nat} (closing : Nat)

/-- **Items are read as they were written**, up to the bracket behind them. -/
theorem readItems_printItems {items : List Value} (hne : items ≠ [])
    (hportable : ∀ v ∈ items, Portable v) (hread : ∀ v ∈ items, ReadsBack v)
    (hfuel : (printItems depth items).length < fuel) (rest : Text) :
    readItems fuel (printItems depth items ++ (newLine closing ++ .char ']' :: rest)) =
      .ok (items, rest) := by
  induction items generalizing fuel with
  | nil => exact absurd rfl hne
  | cons v items ih =>
    obtain ⟨fuel, rfl⟩ : ∃ k, fuel = k + 1 := ⟨fuel - 1, by omega⟩
    rw [List.forall_mem_cons] at hportable hread
    cases items with
    | nil =>
      rw [printItems] at hfuel ⊢
      have hv := hread.1 depth fuel (newLine closing ++ .char ']' :: rest) (by omega)
        (follows_newLine _ _)
      have hend : skipGap (newLine closing ++ .char ']' :: rest) = .char ']' :: rest :=
        skipGap_newLine _ rfl _
      rw [readItems, hv]
      simp only [bind, Except.bind, hend]
    | cons w items =>
      simp only [printItems, List.length_append, List.length_cons] at hfuel
      have htail := ih (List.cons_ne_nil _ _) hportable.2 hread.2
        (show (printItems depth (w :: items)).length < fuel by omega)
      obtain ⟨c, t, hc, hopens⟩ :=
        exists_opens_printItems (hportable.2 w (List.mem_cons_self ..)) depth items
      rw [printItems, List.append_assoc, List.cons_append, List.append_assoc]
      rw [hc, List.cons_append] at htail ⊢
      have hv := hread.1 depth fuel _ (by omega) (follows_comma (newLine depth ++
        c :: (t ++ (newLine closing ++ .char ']' :: rest))))
      rw [readItems, hv]
      simp only [bind, Except.bind, skipGap_comma, skipGap_newLine depth hopens.1, htail]
      rfl

/-- **Members are read as they were written**, from behind the first quote up to the bracket
    behind them. -/
theorem readMembers_printMembers {members : List (Text × Value)} (hne : members ≠ [])
    (hnames : ∀ m ∈ members, Text.Whole m.1) (hportable : ∀ m ∈ members, Portable m.2)
    (hread : ∀ m ∈ members, ReadsBack m.2) (hfuel : (printMembers depth members).length < fuel)
    {t : Text} (ht : printMembers depth members = .char '"' :: t) (rest : Text) :
    readMembers fuel (t ++ (newLine closing ++ .char '\x7d' :: rest)) = .ok (members, rest) := by
  induction members generalizing fuel t with
  | nil => exact absurd rfl hne
  | cons m members ih =>
    obtain ⟨name, v⟩ := m
    obtain ⟨fuel, rfl⟩ : ∃ k, fuel = k + 1 := ⟨fuel - 1, by omega⟩
    rw [List.forall_mem_cons] at hnames hportable hread
    have hback : ReadsBack v := hread.1
    have htext := congrArg (· ++ (newLine closing ++ .char '\x7d' :: rest)) ht
    rw [List.cons_append] at htext
    cases members with
    | nil =>
      rw [printMembers, List.length_append] at hfuel
      rw [printMembers, printMember_append] at htext
      have hv := hback depth fuel (newLine closing ++ .char '\x7d' :: rest) (by omega)
        (follows_newLine _ _)
      have hend : skipGap (newLine closing ++ .char '\x7d' :: rest) = .char '\x7d' :: rest :=
        skipGap_newLine _ rfl _
      rw [← (List.cons.inj htext).2, readMembers, readName_escaped hnames.1 hportable.1]
      simp only [bind, Except.bind, hv, hend]
    | cons w members =>
      obtain ⟨u, hu⟩ := exists_quote_printMembers depth w members
      simp only [printMembers, List.length_append, List.length_cons] at hfuel
      have htail := ih (List.cons_ne_nil _ _) hnames.2 hportable.2 hread.2
        (show (printMembers depth (w :: members)).length < fuel by omega) hu
      rw [printMembers, List.append_assoc, printMember_append, hu, List.cons_append,
        List.append_assoc, List.cons_append] at htext
      have hv := hback depth fuel _ (by omega) (follows_comma (newLine depth ++
        .char '"' :: (u ++ (newLine closing ++ .char '\x7d' :: rest))))
      have hquote := skipGap_newLine depth (c := .char '"') rfl
        (u ++ (newLine closing ++ .char '\x7d' :: rest))
      rw [← (List.cons.inj htext).2, readMembers, readName_escaped hnames.1 hportable.1]
      simp only [bind, Except.bind, hv, skipGap_comma, hquote, htail]
      rfl

end Inside

theorem printAt_arr_append {items : List Value} (hne : items ≠ []) (depth : Nat) (rest : Text) :
    printAt depth (.arr items) ++ rest = .char '[' :: (newLine (depth + 1) ++
      (printItems (depth + 1) items ++ (newLine depth ++ .char ']' :: rest))) := by
  rw [printAt, if_neg (by simpa using hne), List.cons_append, List.append_assoc, List.append_assoc,
    List.append_assoc]
  rfl

theorem printAt_obj_append {members : List (Text × Value)} (hne : members ≠ []) (depth : Nat)
    (rest : Text) :
    printAt depth (.obj members) ++ rest = .char '\x7b' :: (newLine (depth + 1) ++
      (printMembers (depth + 1) members ++ (newLine depth ++ .char '\x7d' :: rest))) := by
  rw [printAt, if_neg (by simpa using hne), List.cons_append, List.append_assoc, List.append_assoc,
    List.append_assoc]
  rfl

theorem ReadsBack.arr {items : List Value} (hportable : ∀ v ∈ items, Portable v)
    (hread : ∀ v ∈ items, ReadsBack v) : ReadsBack (.arr items) := by
  intro depth fuel rest hfuel _
  obtain ⟨fuel, rfl⟩ := exists_fuel (.arr hportable) depth hfuel
  cases items with
  | nil =>
    rw [printAt]
    rfl
  | cons v items =>
    have hne := List.cons_ne_nil v items
    have hlength : (printItems (depth + 1) (v :: items)).length < fuel := by
      have := congrArg List.length (printAt_arr_append hne depth [])
      simp only [List.append_nil, List.length_cons, List.length_append] at this
      omega
    have hitems := readItems_printItems depth hne hportable hread hlength rest
    -- what opens the first item is not the bracket of an empty list
    obtain ⟨c, t, hc, hopens⟩ :=
      exists_opens_printItems (hportable v (List.mem_cons_self ..)) (depth + 1) items
    rw [printAt_arr_append hne]
    rw [hc, List.cons_append] at hitems ⊢
    rw [readValue, skipGap_newLine _ hopens.1]
    split
    · next heq => exact absurd (List.cons.inj heq).1 hopens.2.1
    · rw [hitems]
      rfl

theorem ReadsBack.obj {members : Members} (hnodup : (members.map (·.1)).Nodup)
    (hnames : ∀ m ∈ members, Text.Whole m.1) (hportable : ∀ m ∈ members, Portable m.2)
    (hread : ∀ m ∈ members, ReadsBack m.2) : ReadsBack (.obj members) := by
  intro depth fuel rest hfuel _
  obtain ⟨fuel, rfl⟩ := exists_fuel (.obj hnodup hnames hportable) depth hfuel
  cases members with
  | nil =>
    rw [printAt]
    rfl
  | cons m members =>
    have hne := List.cons_ne_nil m members
    have hlength : (printMembers (depth + 1) (m :: members)).length < fuel := by
      have := congrArg List.length (printAt_obj_append hne depth [])
      simp only [List.append_nil, List.length_cons, List.length_append] at this
      omega
    obtain ⟨t, ht⟩ := exists_quote_printMembers (depth + 1) m members
    have hmembers := readMembers_printMembers depth hne hnames hportable hread hlength ht rest
    -- no member overwrites another, so their order is kept
    have hpairs : Members.ofPairs (m :: members) = m :: members := Members.merge_of_nodup hnodup
    rw [printAt_obj_append hne, ht, List.cons_append, readValue, skipGap_newLine _ rfl]
    simp only [hmembers, Except.map, hpairs]

/-- A value that is no list or object is read in one step. -/
theorem ReadsBack.of_atom {v : Value} (hv : Portable v)
    (h : ∀ depth fuel rest, Follows rest →
      readValue (fuel + 1) (printAt depth v ++ rest) = .ok (v, rest)) : ReadsBack v := by
  intro depth fuel rest hfuel hrest
  obtain ⟨fuel, rfl⟩ := exists_fuel hv depth hfuel
  exact h depth fuel rest hrest

/-- **A portable value is read as it was written.** -/
theorem Portable.readsBack {v : Value} (hv : Portable v) : ReadsBack v := by
  induction hv with
  | null =>
    refine .of_atom .null fun depth fuel rest _ => ?_
    rw [printAt]
    rfl
  | bool b =>
    refine .of_atom (.bool b) fun depth fuel rest _ => ?_
    cases b <;> rw [printAt] <;> rfl
  | int hn =>
    refine .of_atom (.int hn) fun depth fuel rest hrest => ?_
    rw [printAt]
    exact readValue_intText hn hrest fuel
  | str ht =>
    refine .of_atom (.str ht) fun depth fuel rest _ => ?_
    rw [printAt, printString_append, readValue, readString_length ht]
  | arr hportable ih => exact .arr hportable ih
  | obj hnodup hnames hportable ih => exact .obj hnodup hnames hportable ih

/-- **A printed document is read back**, with the end of the line behind it. -/
theorem read_print {v : Value} (hv : Portable v) : read (print v ++ "\n") = .ok v := by
  obtain ⟨c, t, hc, hopens⟩ := exists_opens_printAt hv 0
  have hlength : (printAt 0 v).length ≤ (print v ++ "\n").length + 1 := by
    rw [List.length_append, print]
    omega
  have hvalue := hv.readsBack 0 _ "\n" hlength (follows_newLine 0 [])
  have htext : print v ++ "\n" = c :: (t ++ "\n") := by rw [print, hc, List.cons_append]
  have hgap : skipGap (c :: (t ++ "\n")) = c :: (t ++ "\n") :=
    List.dropWhile_cons_of_neg (by simp [hopens.1])
  have hmark : ¬ (c :: (t ++ "\n")).head? = some (.char '\ufeff') := by
    simpa using hopens.2.2
  rw [← print, htext] at hvalue
  rw [htext, read, if_neg hmark, hgap, hvalue]
  rfl

/-! ## ASCII -/

theorem ascii_newLine (depth : Nat) : (newLine depth).Ascii := by
  refine Text.ascii_cons_iff.2 ⟨by decide, fun c hc => ?_⟩
  rw [List.eq_of_mem_replicate hc]
  decide

theorem ascii_printItems {depth : Nat} {items : List Value}
    (h : ∀ v ∈ items, (printAt depth v).Ascii) : (printItems depth items).Ascii := by
  induction items with
  | nil => rw [printItems]; decide
  | cons v items ih =>
    rw [List.forall_mem_cons] at h
    cases items with
    | nil => rw [printItems]; exact h.1
    | cons w items =>
      have hrest := Text.ascii_append_iff.2 ⟨ascii_newLine depth, ih h.2⟩
      rw [printItems]
      exact Text.ascii_append_iff.2 ⟨h.1, Text.ascii_cons_iff.2 ⟨by decide, hrest⟩⟩

theorem ascii_printMembers {depth : Nat} {members : List (Text × Value)}
    (h : ∀ m ∈ members, (printAt depth m.2).Ascii) : (printMembers depth members).Ascii := by
  induction members with
  | nil => rw [printMembers]; decide
  | cons m members ih =>
    obtain ⟨name, v⟩ := m
    rw [List.forall_mem_cons] at h
    have hmember : (printString name ++ ": " ++ printAt depth v).Ascii := by
      rw [Text.ascii_append_iff, Text.ascii_append_iff]
      exact ⟨⟨ascii_printString name, by decide⟩, h.1⟩
    cases members with
    | nil => rw [printMembers]; exact hmember
    | cons w members =>
      have hrest := Text.ascii_append_iff.2 ⟨ascii_newLine depth, ih h.2⟩
      rw [printMembers]
      exact Text.ascii_append_iff.2 ⟨hmember, Text.ascii_cons_iff.2 ⟨by decide, hrest⟩⟩

/-- **A portable value is written in ASCII.** -/
theorem Portable.ascii_printAt {v : Value} (hv : Portable v) (depth : Nat) :
    (printAt depth v).Ascii := by
  induction hv generalizing depth with
  | null => rw [printAt]; decide
  | bool b => cases b <;> rw [printAt] <;> decide
  | int => rw [printAt]; exact ascii_intText _
  | str => rw [printAt]; exact ascii_printString _
  | arr _ ih =>
    rw [printAt]
    split_ifs
    · decide
    · simp only [Text.ascii_cons_iff, Text.ascii_append_iff]
      exact ⟨by decide, ⟨⟨ascii_newLine _, ascii_printItems fun v hv => ih v hv _⟩,
        ascii_newLine _⟩, by decide⟩
  | obj _ _ _ ih =>
    rw [printAt]
    split_ifs
    · decide
    · simp only [Text.ascii_cons_iff, Text.ascii_append_iff]
      exact ⟨by decide, ⟨⟨ascii_newLine _, ascii_printMembers fun m hm => ih m hm _⟩,
        ascii_newLine _⟩, by decide⟩

/-! ## The command -/

theorem writableItems_of_forall {items : List Value} (h : ∀ v ∈ items, writable v = true) :
    writableItems items = true := by
  induction items with
  | nil => rw [writableItems]
  | cons v items ih =>
    rw [List.forall_mem_cons] at h
    rw [writableItems, h.1, ih h.2]
    rfl

theorem writableMembers_of_forall {members : List (Text × Value)}
    (h : ∀ m ∈ members, writable m.2 = true) : writableMembers members = true := by
  induction members with
  | nil => rw [writableMembers]
  | cons m members ih =>
    rw [List.forall_mem_cons] at h
    rw [writableMembers, h.1, ih h.2]
    rfl

/-- A portable value is not refused. -/
theorem Portable.writable {v : Value} (hv : Portable v) : writable v = true := by
  induction hv with
  | null | bool | str => simp [Json.writable]
  | int hn => rw [Json.writable, withinDigitLimit_iff.2 hn]
  | arr _ ih => rw [Json.writable, writableItems_of_forall ih]
  | obj _ _ _ ih => rw [Json.writable, writableMembers_of_forall ih]

end Json

/-- **What is printed as JSON is read back.**  A portable value is printed, in ASCII, and its
    text is read as that value, with its members in their order, also where the outputs of a
    checker are read; and so are the diagnostics of a file, if their payload is portable. -/
theorem printed_reads_back {v : Value} (hv : Json.Portable v) :
    ∃ out, CommandLine.jsonPrintout v = .ok out ∧ out.text.Ascii ∧ Json.read out.text = .ok v ∧
      decode out.text = .ok (.ofValue v) ∧
      ∀ env c (r : LintReport), c.json = true → r.payload = v →
        ∃ w, CommandLine.writeLint env c r = .ok w ∧ w.stdout = out := by
  have htext : Printout.text (.ofText (Json.print v ++ "\n")) = Json.print v ++ "\n" :=
    List.append_nil _
  have hread := Json.read_print hv
  refine ⟨.ofText (Json.print v ++ "\n"), ?_, ?_, ?_, ?_, ?_⟩
  · rw [CommandLine.jsonPrintout, if_pos hv.writable]
  · rw [htext, Text.ascii_append_iff]
    exact ⟨hv.ascii_printAt 0, by decide⟩
  · rw [htext, hread]
  · rw [htext, decode, hread]
  · rintro env c r hjson rfl
    exact ⟨_, CommandLine.writeLint_json hjson hv.writable, rfl⟩

/-- A document with a list in a list. -/
def nested : Value :=
  .arr [.null, .arr [.bool true, .int (-40), .arr [], .obj []]]

/-- A diagnostic that carries a document and covers its message, in which there are quotes, a
    line break and a character beyond the first plane. -/
def covering : Diagnostic :=
  { Diagnostic.fatal "\"a\"\\\n😀" with raw := some [("𝛑", nested), ("message", .null)] }

theorem portable_nested : Json.Portable nested := by
  have hinner : Json.Portable (.arr [.bool true, .int (-40), .arr [], .obj []]) := by
    refine .arr ?_
    simp only [List.forall_mem_cons]
    exact ⟨.bool true, .int (fewDigits_of_lt (by decide)), .arr (by simp),
      .obj (by simp) (by simp) (by simp), by simp⟩
  refine .arr ?_
  simp only [List.forall_mem_cons]
  exact ⟨.null, hinner, by simp⟩

theorem portable_covering : Json.Portable covering.payload := by
  have hone : Json.Portable (.int 1) := .int (fewDigits_of_lt (by decide))
  have hpoint : Json.Portable (.obj [("line", .int 1), ("column", .int 1)]) :=
    .obj (by decide) (by simp [Text.whole_ofString]) (by simp [hone])
  have hspan : Json.Portable (Span.payload .nowhere) := by
    refine .obj (by decide) (by simp [Text.whole_ofString]) ?_
    simp only [List.forall_mem_cons]
    exact ⟨hpoint, hpoint, by simp⟩
  have hpayload : covering.payload = .obj [("𝛑", nested), ("message", .str "\"a\"\\\n😀"),
      ("level", .str "error"), ("loc", Span.payload .nowhere)] := rfl
  rw [hpayload]
  refine .obj (by decide) (by simp [Text.whole_ofString]) ?_
  simp only [List.forall_mem_cons]
  exact ⟨portable_nested, .str (Text.whole_ofString _), .str (Text.whole_ofString _), hspan,
    by simp⟩

/-- The report of one such diagnostic is printed, in ASCII, and read back. -/
theorem covering_reads_back :
    ∃ v, LintReport.payload ⟨"sub/é.js", .ok, [covering]⟩ = v ∧ Json.Portable v ∧
      ∃ out, out.text.Ascii ∧ Json.read out.text = .ok v ∧
        ∀ env c, c.json = true →
          ∃ w, CommandLine.writeLint env c ⟨"sub/é.js", .ok, [covering]⟩ = .ok w ∧
            w.stdout = out := by
  have hportable : Json.Portable (LintReport.payload ⟨"sub/é.js", .ok, [covering]⟩) := by
    refine .obj (by decide) (by simp [Text.whole_ofString]) ?_
    simp only [List.forall_mem_cons]
    exact ⟨.str (Text.whole_ofString _), .str (Text.whole_ofString _),
      .arr (by simp [portable_covering]), by simp⟩
  obtain ⟨out, -, hascii, hread, -, hwritten⟩ := printed_reads_back hportable
  exact ⟨_, rfl, hportable, out, hascii, hread, fun env c hjson => hwritten env c _ hjson rfl⟩

end FlowLens
