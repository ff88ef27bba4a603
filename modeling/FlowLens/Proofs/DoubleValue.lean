/-
  Doubles as rational numbers.  A finite double is a number, and comparing two
  doubles compares their numbers.

  * `Double.value?`, the number that a double is;
  * `Double.le_iff`, what the comparison of two doubles says of their numbers;
  * `Double.value?_ofInt`, the integers that are kept exactly;
  * `within_eq_good_iff`, what bounds let through.
-/
import FlowLens.Schema.Scalar
import Mathlib

namespace FlowLens

theorem twoTo_eq (n : Nat) : twoTo n = 2 ^ n :=
  rfl

theorem roundDiv_one (n : Nat) : roundDiv n 1 = n := by
  simp [roundDiv, Nat.mod_one]

namespace Double

/-- The number `± m * 2 ^ e`. -/
def number (negative : Bool) (m : Nat) (e : Int) : ℚ :=
  if negative then -(m * (2 : ℚ) ^ e) else m * (2 : ℚ) ^ e

/-- The number that a double is, if it is one. -/
def value? : Double → Option ℚ
  | finite negative m e => some (number negative m e)
  | _ => none

/-! ## Order -/

theorem signedAt_mul {low e : Int} (h : low ≤ e) (negative : Bool) (m : Nat) :
    (signedAt low negative m e : ℚ) * 2 ^ low = number negative m e := by
  have hpow : (2 : ℚ) ^ e = 2 ^ (e - low).toNat * 2 ^ low := by
    rw [← zpow_natCast, ← zpow_add₀ (by norm_num), Int.toNat_of_nonneg (by omega), sub_add_cancel]
  simp only [signedAt, number, twoTo_eq, hpow]
  split_ifs <;> push_cast <;> ring

/-- **Comparing two doubles compares their numbers.** -/
theorem le_iff {x y : Double} {p q : ℚ} (hx : x.value? = some p) (hy : y.value? = some q) :
    x.le y = true ↔ p ≤ q := by
  cases x with
  | nan | infinite => cases hx
  | finite s m e =>
    cases y with
    | nan | infinite => cases hy
    | finite t n f =>
      obtain rfl := Option.some.inj hx
      obtain rfl := Option.some.inj hy
      have hpos : (0 : ℚ) < 2 ^ min e f := by positivity
      rw [← signedAt_mul (min_le_left e f), ← signedAt_mul (min_le_right e f),
        mul_le_mul_iff_left₀ hpos, Int.cast_le]
      exact decide_eq_true_iff

/-- Comparing an integer with a double compares the integer with its number. -/
theorem intLe_iff {n : Int} {x : Double} {q : ℚ} (hx : x.value? = some q) :
    intLe n x = true ↔ (n : ℚ) ≤ q := by
  cases x with
  | nan | infinite => cases hx
  | finite s m e =>
    obtain rfl := Option.some.inj hx
    have hpos : (0 : ℚ) < 2 ^ min e 0 := by positivity
    have hlow : (twoTo (-e).toNat : ℚ) * 2 ^ min e 0 = 1 := by
      have hexp : min e 0 = -((-e).toNat : Int) := by omega
      rw [hexp, zpow_neg, zpow_natCast, twoTo_eq]
      push_cast
      exact mul_inv_cancel₀ (by positivity)
    rw [← signedAt_mul (min_le_left e 0), ← mul_one (n : ℚ), ← hlow, ← mul_assoc,
      mul_le_mul_iff_left₀ hpos]
    unfold intLe
    rw [decide_eq_true_iff]
    norm_cast

/-- What lies between two numbers is a number. -/
theorem exists_value?_of_le {low x high : Double} {p q : ℚ} (hlow : low.value? = some p)
    (hhigh : high.value? = some q) (hl : low.le x = true) (hh : x.le high = true) :
    ∃ r, x.value? = some r := by
  cases low with
  | nan | infinite => cases hlow
  | finite =>
    cases high with
    | nan | infinite => cases hhigh
    | finite =>
      cases x with
      | nan => cases hl
      | infinite negative => cases negative <;> simp [le] at hl hh
      | finite => exact ⟨_, rfl⟩

/-! ## Integers -/

theorem binaryExponent_one {n : Nat} (hn : n ≠ 0) : binaryExponent n 1 = n.log2 := by
  have hlog : Nat.log2 1 = 0 := by decide
  have hle : 2 ^ n.log2 ≤ n := Nat.log2_self_le hn
  simp [binaryExponent, scaleByTwo, twoTo_eq, hlog, hle]

/-- The mantissa of a natural of at most 53 binary digits holds them all. -/
theorem mantissa_lt {n : Nat} (hn : n.log2 ≤ 52) : n * 2 ^ (52 - n.log2) < 2 ^ 53 := by
  calc n * 2 ^ (52 - n.log2) < 2 ^ (n.log2 + 1) * 2 ^ (52 - n.log2) :=
        Nat.mul_lt_mul_of_pos_right Nat.lt_log2_self (Nat.two_pow_pos _)
    _ = 2 ^ 53 := by rw [← Nat.pow_add]; congr 1; omega

theorem ofRatio_one (negative : Bool) {n : Nat} (hn : n ≠ 0) (hlog : n.log2 ≤ 52) :
    ofRatio negative n 1 = .finite negative (n * 2 ^ (52 - n.log2)) (n.log2 - 52) := by
  have hexp : max (-1074) ((n.log2 : Int) - 52) = n.log2 - 52 := by omega
  have hup : (-((n.log2 : Int) - 52)).toNat = 52 - n.log2 := by omega
  have hdown : ((n.log2 : Int) - 52).toNat = 0 := by omega
  have hrange : ¬ (971 : Int) < n.log2 - 52 := by omega
  simp only [ofRatio, if_neg hn, binaryExponent_one hn, hexp, scaleByTwo, hup, hdown, twoTo_eq,
    pow_zero, mul_one, roundDiv_one, pack, if_neg (mantissa_lt hlog).ne, if_neg hrange]

theorem number_of_log2_le (negative : Bool) {n : Nat} (hlog : n.log2 ≤ 52) :
    number negative (n * 2 ^ (52 - n.log2)) (n.log2 - 52) = if negative then -(n : ℚ) else n := by
  have hexp : (n.log2 : Int) - 52 = -((52 - n.log2 : Nat) : Int) := by omega
  have hvalue : ((n * 2 ^ (52 - n.log2) : Nat) : ℚ) * (2 : ℚ) ^ ((n.log2 : Int) - 52) = n := by
    rw [hexp, zpow_neg, zpow_natCast]
    push_cast
    rw [mul_assoc, mul_inv_cancel₀ (by positivity), mul_one]
  rw [number, hvalue]

/-- **An integer of at most 53 binary digits is kept exactly.** -/
theorem value?_ofInt {n : Int} (hn : n.natAbs < 2 ^ 53) : (ofInt n).value? = some (n : ℚ) := by
  by_cases hzero : n = 0
  · subst hzero
    simp [ofInt, ofRatio, zero, value?, number]
  · have hpos : n.natAbs ≠ 0 := Int.natAbs_ne_zero.2 hzero
    have hlog : n.natAbs.log2 ≤ 52 := Nat.le_of_lt_succ ((Nat.log2_lt hpos).2 hn)
    rw [ofInt, ofRatio_one _ hpos hlog, value?, number_of_log2_le _ hlog, Nat.cast_natAbs]
    by_cases hneg : n < 0
    · simp [hneg, abs_of_neg hneg]
    · simp [hneg, abs_of_nonneg (not_lt.1 hneg)]

end Double

/-! ## Bounds -/

/-- **Bounds let through just the numbers between them.** -/
theorem within_eq_good_iff {low high : Int} (hlow : low.natAbs < 2 ^ 53)
    (hhigh : high.natAbs < 2 ^ 53) {x y : Double} :
    within low high x = .good y ↔
      y = x ∧ ∃ q, x.value? = some q ∧ (low : ℚ) ≤ q ∧ q ≤ high := by
  have hl := Double.value?_ofInt hlow
  have hh := Double.value?_ofInt hhigh
  constructor
  · intro h
    unfold within at h
    split_ifs at h with hupper hlower
    · cases h
    · cases h
    · cases h
      simp only [Bool.not_eq_true', Bool.not_eq_false] at hupper hlower
      obtain ⟨q, hq⟩ := Double.exists_value?_of_le hl hh hlower hupper
      exact ⟨rfl, q, hq, (Double.le_iff hl hq).1 hlower, (Double.le_iff hq hh).1 hupper⟩
  · rintro ⟨rfl, q, hq, hlower, hupper⟩
    simp [within, (Double.le_iff hl hq).2 hlower, (Double.le_iff hq hh).2 hupper]

end FlowLens
