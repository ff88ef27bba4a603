/-
  The digit limit.  An integer that was read from a JSON text has few enough
  digits to be written out again, and so has every integer that a check makes of
  such a text.

  * `FewDigits` says of an integer that it may be written out, and
    `Value.Writable` says so of all integers in a value;
  * `Json.writable_of_read`: what is read is writable;
  * `Json.longRun_of_read`: a text that is refused for its digits has more than
    `digitLimit` of them in a row;
  * `fewDigits_of_checkInt`: a check makes no longer integers.
-/
import FlowLens.Json.Reader
import FlowLens.Proofs.Passing
import FlowLens.Report.Entry
import Mathlib

namespace FlowLens

/-! ## Integers -/

/-- An integer that has at most `digitLimit` digits. -/
def FewDigits (n : Int) : Prop :=
  n.natAbs < 10 ^ digitLimit

theorem withinDigitLimit_iff {n : Int} : withinDigitLimit n = true ↔ FewDigits n := by
  simp [withinDigitLimit, natText, FewDigits,
    Nat.length_toDigits_le_iff (b := 10) (by decide) (show 0 < digitLimit by decide)]

theorem boundedIntText_of_fewDigits {n : Int} (h : FewDigits n) :
    boundedIntText n = .ok (intText n) := by
  rw [boundedIntText, if_pos (withinDigitLimit_iff.2 h)]

theorem boundedIntText_of_not_fewDigits {n : Int} (h : ¬ FewDigits n) :
    boundedIntText n = .error .writing := by
  rw [boundedIntText, if_neg fun hw => h (withinDigitLimit_iff.1 hw)]

theorem asciiDigit_le (c : CodePoint) : c.asciiDigit?.getD 0 ≤ 9 := by
  unfold CodePoint.asciiDigit?
  split_ifs with h
  · simp only [Bool.and_eq_true, decide_eq_true_eq] at h
    simp only [Option.getD_some]
    omega
  · simp

theorem foldl_digits_lt {ds : List Nat} (hds : ∀ d ∈ ds, d ≤ 9) (n : Nat) :
    ds.foldl (fun n d => n * 10 + d) n < (n + 1) * 10 ^ ds.length := by
  induction ds generalizing n with
  | nil => simp
  | cons d ds ih =>
    have hd : d ≤ 9 := hds d (by simp)
    have hstep : n * 10 + d + 1 ≤ (n + 1) * 10 := by omega
    calc List.foldl (fun n d => n * 10 + d) (n * 10 + d) ds
        < (n * 10 + d + 1) * 10 ^ ds.length := ih (fun e he => hds e (by simp [he])) _
      _ ≤ (n + 1) * 10 * 10 ^ ds.length := Nat.mul_le_mul_right _ hstep
      _ = (n + 1) * 10 ^ (d :: ds).length := by
        rw [List.length_cons, Nat.pow_succ, Nat.mul_assoc, Nat.mul_comm 10]

theorem asciiNat_lt (t : Text) : asciiNat t < 10 ^ t.length := by
  have h : ∀ d ∈ t.map fun c => c.asciiDigit?.getD 0, d ≤ 9 := by
    simp only [List.mem_map]
    rintro d ⟨c, -, rfl⟩
    exact asciiDigit_le c
  have := foldl_digits_lt h 0
  rwa [List.length_map, Nat.zero_add, Nat.one_mul] at this

theorem natAbs_signed (negative : Bool) (n : Nat) : (signed negative n).natAbs = n := by
  unfold signed; split_ifs <;> simp

theorem fewDigits_signed_asciiNat (negative : Bool) {t : Text} (h : t.length ≤ digitLimit) :
    FewDigits (signed negative (asciiNat t)) := by
  rw [FewDigits, natAbs_signed]
  exact Nat.lt_of_lt_of_le (asciiNat_lt t) (Nat.pow_le_pow_right (by decide) h)

/-! ## Values -/

/-- The integer `n` stands somewhere in a value. -/
inductive Value.Mentions (n : Int) : Value → Prop
  | int : Mentions n (.int n)
  | item {items v} : v ∈ items → Mentions n v → Mentions n (.arr items)
  | member {members m} : m ∈ members → Mentions n m.2 → Mentions n (.obj members)

/-- A value whose integers may all be written out. -/
def Value.Writable (v : Value) : Prop :=
  ∀ n, v.Mentions n → FewDigits n

namespace Value

theorem writable_int_iff {n : Int} : (Value.int n).Writable ↔ FewDigits n :=
  ⟨fun h => h n .int, fun h m hm => by cases hm; exact h⟩

theorem writable_arr_iff {items : List Value} :
    (Value.arr items).Writable ↔ ∀ v ∈ items, v.Writable := by
  constructor
  · intro h v hv n hn
    exact h n (.item hv hn)
  · intro h n hn
    cases hn with
    | item hv hn => exact h _ hv n hn

theorem writable_obj_iff {members : Members} :
    (Value.obj members).Writable ↔ ∀ m ∈ members, m.2.Writable := by
  constructor
  · intro h m hm n hn
    exact h n (.member hm hn)
  · intro h n hn
    cases hn with
    | member hm hn => exact h _ hm n hn

theorem writable_null : Value.null.Writable := fun _ h => by cases h

theorem writable_bool (b : Bool) : (Value.bool b).Writable := fun _ h => by cases h

theorem writable_float (x : Double) : (Value.float x).Writable := fun _ h => by cases h

theorem writable_str (t : Text) : (Value.str t).Writable := fun _ h => by cases h

end Value

theorem Members.mem_put {name : Text} {value : Value} {members : Members} {m : Text × Value}
    (h : m ∈ members.put name value) : m ∈ members ∨ m.2 = value := by
  induction members with
  | nil => simp only [put, List.mem_singleton] at h; subst h; exact Or.inr rfl
  | cons m' rest ih =>
    obtain ⟨n, v⟩ := m'
    unfold put at h
    split_ifs at h
    · rcases List.mem_cons.1 h with rfl | h
      · exact Or.inr rfl
      · exact Or.inl (List.mem_cons_of_mem _ h)
    · rcases List.mem_cons.1 h with rfl | h
      · exact Or.inl (List.mem_cons_self ..)
      · exact (ih h).imp_left (List.mem_cons_of_mem _)

/-- The members of a list of pairs have no other values than the pairs. -/
theorem Members.writable_ofPairs {pairs : List (Text × Value)} (h : ∀ m ∈ pairs, m.2.Writable) :
    ∀ m ∈ ofPairs pairs, m.2.Writable := by
  suffices H : ∀ members : Members, (∀ m ∈ members, m.2.Writable) →
      ∀ m ∈ pairs.foldl (fun members pair => members.put pair.1 pair.2) members, m.2.Writable from
    H [] (by simp)
  induction pairs with
  | nil => exact fun _ hm => hm
  | cons pair rest ih =>
    intro members hm
    refine ih (fun m hm' => h m (List.mem_cons_of_mem _ hm')) _ fun m hmem => ?_
    rcases mem_put hmem with hmem | he
    · exact hm m hmem
    · rw [he]; exact h pair (List.mem_cons_self ..)

/-! ## Reading -/

namespace Json

/-- More than `digitLimit` digits stand in a row, as many as the refusal says. -/
def LongRun (cause : TooManyDigits) (t : Text) : Prop :=
  ∃ digits : Text, cause = .reading digits.length ∧ digitLimit < digits.length ∧
    (∀ c ∈ digits, c.isAsciiDigit = true) ∧ digits <:+: t

/-- What reading from the front of `t` comes to: something with the property
    `P` and a rest of `t`, or a fault, where too many digits stand in `t`. -/
def Reads {α : Type} (P : α → Prop) (t : Text) : Except ReadError (α × Text) → Prop
  | .ok (a, rest) => P a ∧ rest <:+ t
  | .error (.malformed _) => True
  | .error (.tooLong cause) => LongRun cause t

namespace Reads

variable {α β : Type} {P : α → Prop} {Q : β → Prop} {t : Text} {r : Except ReadError (α × Text)}

theorem of_suffix {t' : Text} (ht : t' <:+ t) (h : Reads P t' r) : Reads P t r := by
  match r, h with
  | .ok (a, rest), ⟨ha, hr⟩ => exact ⟨ha, hr.trans ht⟩
  | .error (.malformed _), _ => trivial
  | .error (.tooLong _), ⟨digits, hc, hl, hd, hi⟩ => exact ⟨digits, hc, hl, hd, hi.trans ht.isInfix⟩

theorem map {f : α × Text → β × Text} (h : Reads P t r)
    (hf : ∀ a rest, P a → Q (f (a, rest)).1 ∧ (f (a, rest)).2 = rest) : Reads Q t (r.map f) := by
  match r, h with
  | .ok (a, rest), ⟨ha, hr⟩ =>
    obtain ⟨hq, he⟩ := hf a rest ha
    refine ⟨hq, ?_⟩
    rw [he]; exact hr
  | .error (.malformed _), _ => trivial
  | .error (.tooLong _), h => exact h

theorem bind {f : α × Text → Except ReadError (β × Text)} (h : Reads P t r)
    (hf : ∀ a rest, P a → Reads Q rest (f (a, rest))) : Reads Q t (r >>= f) := by
  match r, h with
  | .ok (a, rest), ⟨ha, hr⟩ => exact (hf a rest ha).of_suffix hr
  | .error (.malformed _), _ => trivial
  | .error (.tooLong _), h => exact h

end Reads

theorem skipGap_suffix (t : Text) : skipGap t <:+ t :=
  List.dropWhile_suffix _

/-! ### Strings -/

/-- What is left behind a unit of a string. -/
def Scanned.rest : Scanned → Text
  | close rest => rest
  | unit _ rest => rest

theorem takeQuad?_suffix {t rest : Text} {n : Nat} (h : takeQuad? t = some (n, rest)) :
    rest <:+ t := by
  unfold takeQuad? at h
  split at h
  · next a b c d e rest' =>
    obtain ⟨_, -, he⟩ := Option.map_eq_some_iff.1 h
    cases he
    exact ⟨[a, b, c, d], rfl⟩
  · cases h

theorem numberedUnit_suffix {n : Nat} {t : Text} {u : Scanned} (h : numberedUnit n t = .ok u) :
    u.rest <:+ t := by
  unfold numberedUnit at h
  have halone : ∀ c, (Scanned.unit c t).rest <:+ t := fun _ => List.suffix_refl _
  split_ifs at h
  · split at h
    · split_ifs at h
      · cases h; exact halone _
      · split at h
        · cases h
        · next m rest' hm =>
          split_ifs at h
          · cases h
            exact (takeQuad?_suffix hm).trans ⟨[.char '\\', .char 'u'], rfl⟩
          · cases h; exact halone _
    · cases h; exact halone _
  · cases h; exact halone _

theorem readUnit_suffix {t : Text} {u : Scanned} (h : readUnit t = .ok u) : u.rest <:+ t := by
  unfold readUnit at h
  split at h
  · cases h
  · cases h; exact List.suffix_cons _ _
  · cases h
  · split at h
    · cases h
    · next hm =>
      exact ((numberedUnit_suffix h).trans (takeQuad?_suffix hm)).trans
        ⟨[.char '\\', .char 'u'], rfl⟩
  · next c rest _ =>
    split at h
    · cases h
    · cases h; exact ⟨[.char '\\', c], rfl⟩
  · split_ifs at h
    cases h
    exact List.suffix_cons _ _

theorem readString_suffix {fuel : Nat} {t s rest : Text} (h : readString fuel t = .ok (s, rest)) :
    rest <:+ t := by
  induction fuel generalizing t s with
  | zero => cases h
  | succ fuel ih =>
    unfold readString at h
    split at h
    · cases h
    · next hu => cases h; exact readUnit_suffix hu
    · next c rest' hu =>
      cases hr : readString fuel rest' with
      | error fault => rw [hr] at h; cases h
      | ok p =>
        rw [hr] at h
        cases h
        exact (ih hr).trans (readUnit_suffix hu)

/-! ### Numbers -/

theorem takeDigits_spec {t digits rest : Text} (h : takeDigits t = (digits, rest)) :
    t = digits ++ rest ∧ ∀ c ∈ digits, c.isAsciiDigit = true := by
  rw [takeDigits, List.span_eq_takeWhile_dropWhile] at h
  obtain ⟨rfl, rfl⟩ := Prod.mk.inj h
  exact ⟨(List.takeWhile_append_dropWhile ..).symm, fun c hc => List.mem_takeWhile_imp hc⟩

theorem takeWhole?_spec {t digits rest : Text} (h : takeWhole? t = some (digits, rest)) :
    t = digits ++ rest ∧ ∀ c ∈ digits, c.isAsciiDigit = true := by
  unfold takeWhole? at h
  split at h
  · cases h
    exact ⟨rfl, by decide⟩
  · split at h
    · cases h
    · next hd => cases h; exact takeDigits_spec hd

theorem takeFraction?_suffix {t digits rest : Text} (h : takeFraction? t = some (digits, rest)) :
    rest <:+ t := by
  unfold takeFraction? at h
  split at h
  · split at h
    · cases h
    · next hd =>
      cases h
      obtain ⟨rfl, -⟩ := takeDigits_spec hd
      exact (List.suffix_append _ _).trans (List.suffix_cons _ _)
  · cases h

theorem takeSign_suffix (t : Text) : (takeSign t).2 <:+ t := by
  unfold takeSign
  split
  · exact List.suffix_cons _ _
  · exact List.suffix_cons _ _
  · exact List.suffix_refl _

theorem takeExponent?_suffix {t rest : Text} {e : Int} (h : takeExponent? t = some (e, rest)) :
    rest <:+ t := by
  unfold takeExponent? at h
  split at h
  · next c rest' =>
    split_ifs at h
    dsimp only at h
    split at h
    · cases h
    · next hd =>
      cases h
      have hdigits : rest <:+ (takeSign rest').2 := by
        rw [(takeDigits_spec hd).1]; exact List.suffix_append _ _
      exact (hdigits.trans (takeSign_suffix rest')).trans (List.suffix_cons _ _)
  · cases h

theorem wholeNumber_reads {negative : Bool} {digits rest t : Text} (ht : t = digits ++ rest)
    (hd : ∀ c ∈ digits, c.isAsciiDigit = true) :
    Reads Value.Writable t ((wholeNumber negative digits).map (·, rest)) := by
  unfold wholeNumber
  split_ifs with hl
  · refine ⟨Value.writable_int_iff.2 (fewDigits_signed_asciiNat negative hl), ?_⟩
    rw [ht]; exact List.suffix_append _ _
  · refine ⟨digits, rfl, Nat.lt_of_not_le hl, hd, ?_⟩
    rw [ht]; exact (List.prefix_append _ _).isInfix

theorem readMagnitude?_reads {negative : Bool} {t : Text} {r : Except ReadError (Value × Text)}
    (h : readMagnitude? negative t = some r) : Reads Value.Writable t r := by
  obtain ⟨⟨digits, rest⟩, hw, rfl⟩ := Option.map_eq_some_iff.1 h
  obtain ⟨ht, hd⟩ := takeWhole?_spec hw
  have hrest : rest <:+ t := by rw [ht]; exact List.suffix_append _ _
  dsimp only
  split
  · next places rest' hf =>
    refine ⟨Value.writable_float _, List.IsSuffix.trans ?_ ((takeFraction?_suffix hf).trans hrest)⟩
    cases he : takeExponent? rest' with
    | none => exact List.suffix_refl _
    | some p => exact takeExponent?_suffix he
  · split
    · next he => exact ⟨Value.writable_float _, (takeExponent?_suffix he).trans hrest⟩
    · exact wholeNumber_reads ht hd

theorem readNumber?_reads {t : Text} {r : Except ReadError (Value × Text)}
    (h : readNumber? t = some r) : Reads Value.Writable t r := by
  unfold readNumber? at h
  split at h
  · exact (readMagnitude?_reads h).of_suffix (List.suffix_cons _ _)
  · exact readMagnitude?_reads h

/-! ### Values -/

theorem writable_words : ∀ w ∈ words, w.2.Writable := by
  simp only [words, List.forall_mem_cons]
  exact ⟨Value.writable_null, Value.writable_bool _, Value.writable_bool _, Value.writable_float _,
    Value.writable_float _, Value.writable_float _, by simp⟩

theorem readAtom_reads (t : Text) : Reads Value.Writable t (readAtom t) := by
  unfold readAtom
  split
  · next r hr =>
    obtain ⟨w, hw, rfl⟩ := Option.map_eq_some_iff.1 hr
    exact ⟨writable_words w (List.mem_of_find?_eq_some hw), List.drop_suffix _ _⟩
  · split
    · next hr => exact readNumber?_reads hr
    · trivial

theorem readName_reads (t : Text) : Reads (fun _ => True) t (readName t) := by
  unfold readName
  split
  · trivial
  · next name rest hs =>
    split
    · next rest' hg =>
      have hcolon : rest' <:+ rest := (List.suffix_cons _ _).trans (hg ▸ skipGap_suffix rest)
      exact ⟨trivial, (skipGap_suffix rest').trans (hcolon.trans (readString_suffix hs))⟩
    · trivial

/-- The three readers of values, items and members, by induction on the depth
    that is left to them. -/
theorem readers_read (fuel : Nat) :
    (∀ t, Reads Value.Writable t (readValue fuel t)) ∧
      (∀ t, Reads (fun items : List Value => ∀ v ∈ items, v.Writable) t (readItems fuel t)) ∧
      ∀ t, Reads (fun pairs : List (Text × Value) => ∀ m ∈ pairs, m.2.Writable) t
        (readMembers fuel t) := by
  induction fuel with
  | zero => exact ⟨fun _ => trivial, fun _ => trivial, fun _ => trivial⟩
  | succ fuel ih =>
    obtain ⟨ihValue, ihItems, ihMembers⟩ := ih
    refine ⟨fun t => ?_, fun t => ?_, fun t => ?_⟩
    · unfold readValue
      split
      · next rest =>
        split
        · trivial
        · next hs =>
          exact ⟨Value.writable_str _, (readString_suffix hs).trans (List.suffix_cons _ _)⟩
      · next rest =>
        have hrest := (skipGap_suffix rest).trans (List.suffix_cons (.char '[') rest)
        split
        · next hg =>
          rw [hg] at hrest
          exact ⟨Value.writable_arr_iff.2 (by simp), (List.suffix_cons _ _).trans hrest⟩
        · refine ((ihItems _).of_suffix hrest).map fun items r h => ⟨?_, rfl⟩
          exact Value.writable_arr_iff.2 h
      · next rest =>
        have hrest := (skipGap_suffix rest).trans (List.suffix_cons (.char '\x7b') rest)
        split
        · next hg =>
          rw [hg] at hrest
          exact ⟨Value.writable_obj_iff.2 (by simp), (List.suffix_cons _ _).trans hrest⟩
        · next hg =>
          rw [hg] at hrest
          refine ((ihMembers _).of_suffix ((List.suffix_cons _ _).trans hrest)).map
            fun pairs r h => ⟨?_, rfl⟩
          exact Value.writable_obj_iff.2 (Members.writable_ofPairs h)
        · trivial
      · exact readAtom_reads _
    · unfold readItems
      refine (ihValue t).bind fun v rest hv => ?_
      dsimp only
      have hrest := skipGap_suffix rest
      split
      · next hg =>
        rw [hg] at hrest
        exact ⟨by simpa using hv, (List.suffix_cons _ _).trans hrest⟩
      · next rest' hg =>
        rw [hg] at hrest
        refine ((ihItems _).of_suffix ((skipGap_suffix rest').trans
          ((List.suffix_cons _ _).trans hrest))).map fun items r h => ⟨?_, rfl⟩
        exact List.forall_mem_cons.2 ⟨hv, h⟩
      · trivial
    · unfold readMembers
      refine (readName_reads t).bind fun name rest _ => ?_
      dsimp only
      refine (ihValue rest).bind fun v rest hv => ?_
      dsimp only
      have hrest := skipGap_suffix rest
      split
      · next hg =>
        rw [hg] at hrest
        exact ⟨by simpa using hv, (List.suffix_cons _ _).trans hrest⟩
      · next rest' hg =>
        rw [hg] at hrest
        have hrest' := (skipGap_suffix rest').trans ((List.suffix_cons _ _).trans hrest)
        split
        · next hg' =>
          rw [hg'] at hrest'
          refine ((ihMembers _).of_suffix ((List.suffix_cons _ _).trans hrest')).map
            fun pairs r h => ⟨?_, rfl⟩
          exact List.forall_mem_cons.2 ⟨hv, h⟩
        · trivial
      · trivial

theorem read_eq_ok {t : Text} {v : Value} (h : read t = .ok v) :
    ∃ rest, readValue (t.length + 1) (skipGap t) = .ok (v, rest) := by
  unfold read at h
  split_ifs at h
  cases hr : readValue (t.length + 1) (skipGap t) with
  | error e => rw [hr] at h; cases h
  | ok p =>
    obtain ⟨w, rest⟩ := p
    rw [hr] at h
    simp only [bind, Except.bind] at h
    split_ifs at h
    cases h
    exact ⟨rest, rfl⟩

/-- **What is read may be written out again.** -/
theorem writable_of_read {t : Text} {v : Value} (h : read t = .ok v) : v.Writable := by
  obtain ⟨rest, hr⟩ := read_eq_ok h
  have := (readers_read (t.length + 1)).1 (skipGap t)
  rw [hr] at this
  exact this.1

/-- **A text that is refused for its digits has too many in a row.** -/
theorem longRun_of_read {t : Text} {cause : TooManyDigits} (h : read t = .error (.tooLong cause)) :
    LongRun cause t := by
  have hreads := ((readers_read (t.length + 1)).1 (skipGap t)).of_suffix (skipGap_suffix t)
  unfold read at h
  split_ifs at h
  · cases h
  cases hr : readValue (t.length + 1) (skipGap t) with
  | error e =>
    rw [hr] at h hreads
    cases h
    exact hreads
  | ok p =>
    rw [hr] at h
    simp only [bind, Except.bind] at h
    split_ifs at h
    cases h

theorem readWord?_one (t : Text) : readWord? (.char '1' :: t) = none := by
  have h : ∀ w ∈ words, List.isPrefixOf w.1 (.char '1' :: t) = false := by
    simp only [words, List.forall_mem_cons]
    refine ⟨rfl, rfl, rfl, rfl, rfl, rfl, by simp⟩
  rw [readWord?, List.find?_eq_none.2 fun w hw => by simp [h w hw], Option.map_none]

/-- A number of too many ones is refused. -/
theorem read_ones {n : Nat} (h : digitLimit < n) :
    read (List.replicate n (.char '1')) = .error (.tooLong (.reading n)) := by
  obtain ⟨k, rfl⟩ : ∃ k, n = k + 1 := ⟨n - 1, by omega⟩
  have hdigits : takeDigits (List.replicate (k + 1) (.char '1')) =
      (List.replicate (k + 1) (.char '1'), []) := by
    rw [takeDigits, List.span_eq_takeWhile_dropWhile, List.takeWhile_replicate,
      List.dropWhile_replicate]
    rfl
  rw [List.replicate_succ] at hdigits ⊢
  have hwhole : wholeNumber false (.char '1' :: List.replicate k (.char '1')) =
      .error (.tooLong (.reading (k + 1))) := by
    rw [wholeNumber, if_neg (by simpa using h), List.length_cons, List.length_replicate]
  have hfront : takeWhole? (.char '1' :: List.replicate k (.char '1')) =
      some (.char '1' :: List.replicate k (.char '1'), []) := by
    simp [takeWhole?, hdigits]
  have hnumber : readNumber? (.char '1' :: List.replicate k (.char '1')) =
      some (.error (.tooLong (.reading (k + 1)))) := by
    show readMagnitude? false _ = _
    rw [readMagnitude?, hfront, Option.map_some]
    show some (Except.map _ (wholeNumber false _)) = _
    rw [hwhole]
    rfl
  have hvalue : ∀ fuel, readValue (fuel + 1) (.char '1' :: List.replicate k (.char '1')) =
      .error (.tooLong (.reading (k + 1))) := by
    intro fuel
    simp [readValue, readAtom, readWord?_one, hnumber]
  have hgap : skipGap (.char '1' :: List.replicate k (.char '1')) =
      .char '1' :: List.replicate k (.char '1') := by
    simp [skipGap, isGap]
  rw [read, if_neg (by simp), hgap, hvalue]
  rfl
end Json

/-! ## Checks -/

theorem fewDigits_of_readPlainInt? {t : Text} {n : Int} (h : readPlainInt? t = .ok n) :
    FewDigits n := by
  unfold readPlainInt? at h
  dsimp only at h
  split_ifs at h
  · cases h
    exact Nat.pow_pos (by decide)
  · split at h
    · cases h
    · split_ifs at h with hl
      cases h
      exact fewDigits_signed_asciiNat _ (Nat.le_of_not_lt hl)

theorem fewDigits_of_readInt? {t : Text} {n : Int} (h : readInt? t = .ok n) : FewDigits n := by
  unfold readInt? at h
  split at h
  · next hp => cases h; exact fewDigits_of_readPlainInt? hp
  · cases h
  · split at h
    · next hp =>
      cases h
      obtain ⟨t', -, ht⟩ := Option.map_eq_some_iff.1 hp
      exact fewDigits_of_readPlainInt? ht
    · cases h

theorem fewDigits_of_lt {n : Int} (h : n.natAbs < 10 ^ 20) : FewDigits n :=
  Nat.lt_of_lt_of_le h (Nat.pow_le_pow_right (by decide) (by decide))

/-- **A check makes no integer that is too long to be written.** -/
theorem fewDigits_of_checkInt {v : Value} {n : Int} (hv : v.Writable) (h : checkInt v = .good n) :
    FewDigits n := by
  cases v with
  | int m =>
    cases h
    exact Value.writable_int_iff.1 hv
  | bool b =>
    cases h
    exact fewDigits_of_lt (by cases b <;> decide)
  | float x =>
    simp only [checkInt] at h
    split_ifs at h
    · split at h
      · cases h
      · split_ifs at h with hn
        · cases h
          have hpow : (twoTo 63 : Int) = 9223372036854775808 := by decide
          exact fewDigits_of_lt (by omega)
        · cases h
    · cases h
  | str t =>
    simp only [checkInt, checkChars] at h
    split_ifs at h
    · split at h
      · next hr => cases h; exact fewDigits_of_readInt? hr
      · cases h
      · cases h
    · cases h
  | _ => cases h

theorem Message.fewDigits_of_check {v : Value} {m : Message} (hv : v.Writable)
    (h : Message.check v = .good m) : FewDigits m.line := by
  obtain ⟨members, rfl, hm⟩ := checkRecord_eq_good h
  simp only [Checked.seq_eq_good_iff, Checked.map_eq_good_iff] at hm
  obtain ⟨_, _, ⟨_, _, ⟨_, line, ⟨_, _, ⟨_, _, ⟨_, _, rfl⟩, _, rfl⟩, _, rfl⟩, hline, rfl⟩, _, rfl⟩, _,
    rfl⟩ := hm
  rcases Members.optional_eq_good hline with rfl | ⟨p, hp, hline⟩
  · exact fewDigits_of_lt (show (0 : Int).natAbs < 10 ^ 20 by decide)
  · exact fewDigits_of_checkInt (Value.writable_obj_iff.1 hv p hp) hline

theorem Extra.fewDigits_of_check {v : Value} {e : Extra} (hv : v.Writable)
    (h : Extra.check v = .good e) : ∀ m ∈ e.messages, FewDigits m.line := by
  obtain ⟨members, rfl, hm⟩ := checkRecord_eq_good h
  obtain ⟨messages, hmessages, rfl⟩ := Checked.map_eq_good_iff.1 hm
  intro m hm
  rcases Members.optional_eq_good hmessages with rfl | ⟨p, hp, hlist⟩
  · cases hm
  · obtain ⟨items, hitems, hall⟩ := checkList_eq_good hlist
    have hw := Value.writable_obj_iff.1 hv p hp
    rw [hitems, Value.writable_arr_iff] at hw
    obtain ⟨v, hv, hcheck⟩ := exists_mem_of_forall₂ hall hm
    exact Message.fewDigits_of_check (hw v hv) hcheck

/-- The messages that an entry may refer to stand on lines that may be written
    out. -/
theorem Entry.fewDigits_of_check {v : Value} {e : Entry} (hv : v.Writable)
    (h : Entry.check v = .good e) : ∀ m ∈ e.references, FewDigits m.line := by
  obtain ⟨members, rfl, hm⟩ := checkRecord_eq_good h
  simp only [Checked.seq_eq_good_iff, Checked.map_eq_good_iff] at hm
  obtain ⟨_, extras, ⟨_, _, ⟨_, _, ⟨_, _, rfl⟩, _, rfl⟩, _, rfl⟩, hextras, rfl⟩ := hm
  intro m hm
  simp only [references, List.mem_filterMap] at hm
  obtain ⟨extra, hextra, hhead⟩ := hm
  rcases Members.optional_eq_good hextras with rfl | ⟨p, hp, hnull⟩
  · simp at hextra
  cases extras with
  | none => simp at hextra
  | some extras =>
    obtain ⟨items, hitems, hall⟩ := checkList_eq_good (checkNullable_eq_good hnull)
    have hw := Value.writable_obj_iff.1 hv p hp
    rw [hitems, Value.writable_arr_iff] at hw
    obtain ⟨v, hv, hcheck⟩ := exists_mem_of_forall₂ hall hextra
    exact Extra.fewDigits_of_check (hw v hv) hcheck m (List.mem_of_head? hhead)

end FlowLens
