/-
  Lower case within ASCII and beyond.  Of all code points beyond ASCII, only the
  Kelvin sign has a lower-case form in ASCII, which is `k`.

  * `CodePoint.simpleLower_of_ascii` and `CodePoint.simpleLower_beyond`: a letter of
    ASCII is lowered as ASCII has it, and no other letter becomes one, but for `k`;
  * `Text.lower_eq_iff`: a word of ASCII without `k` is the lower-case form of those
    texts only that differ from it in the case of letters from A to Z.
-/
import FlowLens.Schema.Scalar
import FlowLens.Text.LowerCase
import Mathlib

namespace FlowLens

namespace CodePoint

variable {c d : CodePoint}

/-- What holds of the 128 characters of ASCII, one by one. -/
theorem forall_ascii {P : CodePoint → Prop} (h : ∀ n : Fin 128, P (.char (Char.ofNat n)))
    (hc : c.val < 128) : P c := by
  cases c with
  | char c =>
    have hc' := h ⟨c.toNat, hc⟩
    rwa [Char.ofNat_toNat] at hc'
  | lone n => simp only [val] at hc; omega

theorem val_of_ofNat? {n : Nat} (h : ofNat? n = some c) : c.val = n := by
  unfold ofNat? at h
  split_ifs at h with hvalid hlone
  · cases h
    simp [val, Char.toNat_ofNat, hvalid]
  · cases h
    simp only [val]
    omega

theorem asciiLower_beyond (hc : 128 ≤ c.val) : asciiLower c = c := by
  cases c with
  | lone n => rfl
  | char c =>
    have hupper : ¬ (c.val ≥ 'A'.val ∧ c.val ≤ 'Z'.val) := by
      rintro ⟨-, hZ⟩
      have : c.toNat ≤ 90 := hZ
      simp only [val] at hc
      omega
    rw [asciiLower, Char.toLower, dif_neg hupper]

theorem simpleLower_of_ascii (hc : c.val < 128) : c.simpleLower = asciiLower c :=
  forall_ascii (P := fun c => c.simpleLower = asciiLower c) (by decide +kernel) hc

/-- Capitals of a run beyond ASCII have their partners beyond it, but for the Kelvin
    sign. -/
theorem lowerRuns_beyond : ∀ r ∈ lowerRuns, r.last < 128 ∨ 128 ≤ r.first + r.shift ∨
    (r.first = 0x212A ∧ r.last = 0x212A ∧ r.shift = -8383) := by
  decide +kernel

theorem simpleLower_beyond (hc : 128 ≤ c.val) :
    128 ≤ c.simpleLower.val ∨ c.simpleLower = .char 'k' := by
  unfold simpleLower
  split
  · next r hr =>
    have hwithin := List.find?_some hr
    simp only [Bool.and_eq_true, decide_eq_true_eq] at hwithin
    obtain ⟨⟨hfirst, hlast⟩, -⟩ := hwithin
    rcases lowerRuns_beyond r (List.mem_of_find?_eq_some hr) with h | h | ⟨h₁, h₂, h₃⟩
    · omega
    · left
      cases hpartner : ofNat? (c.val + r.shift).toNat with
      | none => exact hc
      | some d =>
        rw [Option.getD_some, val_of_ofNat? hpartner]
        omega
    · right
      have hval : (c.val + r.shift).toNat = 107 := by omega
      rw [hval]
      rfl
  · exact Or.inl hc

end CodePoint

namespace Text

open CodePoint

variable {t w before after : Text} {c : CodePoint}

theorem lowerUnit_of_ascii (hc : c.val < 128) : lowerUnit before after c = [asciiLower c] := by
  rw [lowerUnit, if_neg (by omega), if_neg (by omega), simpleLower_of_ascii hc]

/-- The lower-case form of a code point beyond ASCII has one beyond it, or is `k`. -/
theorem lowerUnit_beyond (hc : 128 ≤ c.val) (before after : Text) :
    ∃ d ∈ lowerUnit before after c, 128 ≤ d.val ∨ d = .char 'k' := by
  unfold lowerUnit
  split_ifs
  · exact ⟨.char '̇', by simp, Or.inl (by decide)⟩
  · exact ⟨.char 'ς', by simp, Or.inl (by decide)⟩
  · exact ⟨c.simpleLower, by simp, simpleLower_beyond hc⟩

theorem lowerAfter_of_ascii (h : ∀ c ∈ t, c.val < 128) : lowerAfter before t = t.map asciiLower := by
  induction t generalizing before with
  | nil => rfl
  | cons c t ih =>
    obtain ⟨hc, ht⟩ := List.forall_mem_cons.1 h
    rw [lowerAfter, lowerUnit_of_ascii hc, ih ht]
    rfl

theorem lowerAfter_beyond (hc : 128 ≤ c.val) (hmem : c ∈ t) (before : Text) :
    ∃ d ∈ lowerAfter before t, 128 ≤ d.val ∨ d = .char 'k' := by
  induction t generalizing before with
  | nil => cases hmem
  | cons e t ih =>
    rcases List.mem_cons.1 hmem with rfl | hmem
    · obtain ⟨d, hd, h⟩ := lowerUnit_beyond hc before t
      exact ⟨d, List.mem_append_left _ hd, h⟩
    · obtain ⟨d, hd, h⟩ := ih hmem (e :: before)
      exact ⟨d, List.mem_append_right _ hd, h⟩

/-- A text with a code point beyond ASCII keeps it when only letters from A to Z are
    lowered. -/
theorem mem_map_asciiLower_of_beyond (hc : 128 ≤ c.val) (hmem : c ∈ t) : c ∈ t.map asciiLower :=
  List.mem_map.2 ⟨c, hmem, asciiLower_beyond hc⟩

/-- **Only the case of letters from A to Z** matters to a word of ASCII without `k`. -/
theorem lower_eq_iff (hw : ∀ c ∈ w, c.val < 128 ∧ c ≠ .char 'k') :
    t.lower = w ↔ t.map asciiLower = w := by
  by_cases hascii : ∀ c ∈ t, c.val < 128
  · rw [lower, lowerAfter_of_ascii hascii]
  · simp only [not_forall, not_lt] at hascii
    obtain ⟨c, hmem, hc⟩ := hascii
    constructor
    · rintro rfl
      obtain ⟨d, hd, hbeyond | hk⟩ := lowerAfter_beyond hc hmem []
      · have := (hw d hd).1
        omega
      · exact absurd hk (hw d hd).2
    · rintro rfl
      have := (hw c (mem_map_asciiLower_of_beyond hc hmem)).1
      omega

end Text

end FlowLens
