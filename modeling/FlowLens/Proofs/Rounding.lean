/-
  Rounding to doubles, as a relation between numbers.  Rounding keeps the order of
  numbers, and what it changes is bounded by the grid of the doubles around a number.

  * `Nearest`, the integer nearest to a number, which is what `roundDiv` gives;
  * `Double.Rounded`, the number of the nearest double;
  * `Double.Rounded.le`: rounding keeps the order;
  * `Double.exists_rounded_ofRatio` and the theorems after it: the operations on doubles
    round their exact results.
-/
import FlowLens.Proofs.DoubleValue
import Mathlib

namespace FlowLens

/-! ## The nearest integer -/

/-- A natural that is nearest to a number, and the even one of two. -/
def Nearest (q : ℚ) (m : ℕ) : Prop :=
  |q - m| < 1 / 2 ∨ |q - m| = 1 / 2 ∧ Even m

theorem Nearest.abs_sub_le {q : ℚ} {m : ℕ} (h : Nearest q m) : |q - m| ≤ 1 / 2 := by
  rcases h with h | ⟨h, -⟩
  · exact h.le
  · exact h.le

theorem nearest_natCast (m : ℕ) : Nearest m m := by
  left
  norm_num

/-- **Nearest integers are in the order of their numbers.** -/
theorem Nearest.le {q q' : ℚ} {m m' : ℕ} (h : Nearest q m) (h' : Nearest q' m') (hle : q ≤ q') :
    m ≤ m' := by
  by_contra hlt
  have hstep : (m' : ℚ) + 1 ≤ m := by exact_mod_cast Nat.lt_of_not_le hlt
  have hlow := abs_le.1 h.abs_sub_le
  have hhigh := abs_le.1 h'.abs_sub_le
  -- Both numbers are in the middle between the two integers, of which only one is even.
  have hm : m = m' + 1 := by
    have : (m : ℚ) = m' + 1 := by linarith
    exact_mod_cast this
  have hq : q - m = -(1 / 2) := by linarith
  have hq' : q' - m' = 1 / 2 := by linarith
  have heven : Even m := by
    rcases h with h | ⟨-, h⟩
    · rw [hq] at h
      norm_num at h
    · exact h
  have heven' : Even m' := by
    rcases h' with h' | ⟨-, h'⟩
    · rw [hq'] at h'
      norm_num at h'
    · exact h'
  rw [hm, Nat.even_add_one] at heven
  exact heven heven'

theorem nearest_roundDiv (n : ℕ) {d : ℕ} (hd : 0 < d) : Nearest ((n : ℚ) / d) (roundDiv n d) := by
  have hpos : (0 : ℚ) < d := by exact_mod_cast hd
  have hr : n % d < d := Nat.mod_lt n hd
  have hn : (n : ℚ) / d = (n / d : ℕ) + (n % d : ℕ) / d := by
    rw [div_eq_iff hpos.ne', add_mul, div_mul_cancel₀ _ hpos.ne']
    exact_mod_cast (Nat.div_add_mod' n d).symm
  unfold roundDiv Nearest
  rw [hn]
  dsimp only
  split_ifs with hlow hhigh heven
  · have hfrac : ((n % d : ℕ) : ℚ) / d < 1 / 2 := by
      rw [div_lt_div_iff₀ hpos (by norm_num)]
      exact_mod_cast (by omega : n % d * 2 < 1 * d)
    have hzero : (0 : ℚ) ≤ ((n % d : ℕ) : ℚ) / d := by positivity
    left
    rw [add_sub_cancel_left, abs_of_nonneg hzero]
    exact hfrac
  · have hfrac : 1 / 2 < ((n % d : ℕ) : ℚ) / d := by
      rw [div_lt_div_iff₀ (by norm_num) hpos]
      exact_mod_cast (by omega : 1 * d < n % d * 2)
    have hone : ((n % d : ℕ) : ℚ) / d < 1 := by
      rw [div_lt_one hpos]
      exact_mod_cast hr
    left
    push_cast
    rw [abs_lt]
    constructor <;> linarith
  all_goals
    have hhalf : ((n % d : ℕ) : ℚ) / d = 1 / 2 := by
      rw [div_eq_div_iff hpos.ne' (by norm_num)]
      exact_mod_cast (by omega : n % d * 2 = 1 * d)
    right
    rw [hhalf]
  · refine ⟨?_, Nat.even_iff.2 heven⟩
    rw [add_sub_cancel_left, abs_of_nonneg (by norm_num)]
  · refine ⟨?_, ?_⟩
    · push_cast
      rw [abs_of_nonpos (by linarith)]
      ring
    · rw [Nat.even_add_one, Nat.even_iff]
      exact heven

namespace Double

/-! ## The nearest double -/

/-- The exponent at which the doubles around a number are kept. -/
def gridOf (q : ℚ) : ℤ :=
  max (-1074) (Int.log 2 q - 52)

/-- The number of the double that is nearest to a number. -/
def Rounded (q v : ℚ) : Prop :=
  ∃ m : ℕ, Nearest (q / 2 ^ gridOf q) m ∧ v = m * 2 ^ gridOf q

variable {q q' v v' : ℚ}

theorem gridOf_le (hpos : 0 < q) (hle : q ≤ q') : gridOf q ≤ gridOf q' :=
  max_le_max le_rfl (Int.sub_le_sub_right (Int.log_mono_right hpos hle) _)

theorem lt_two_zpow_gridOf (q : ℚ) : q < 2 ^ (gridOf q + 53) := by
  have hlog : q < 2 ^ (Int.log 2 q + 1) := by
    exact_mod_cast Int.lt_zpow_succ_log_self (by norm_num) q
  refine hlog.trans_le (zpow_le_zpow_right₀ (by norm_num) ?_)
  have := le_max_right (-1074) (Int.log 2 q - 52)
  unfold gridOf
  omega

theorem two_zpow_gridOf_le (hpos : 0 < q) (hgrid : -1074 < gridOf q) : 2 ^ (gridOf q + 52) ≤ q := by
  have hlog : (2 : ℚ) ^ Int.log 2 q ≤ q := by exact_mod_cast Int.zpow_log_le_self (by norm_num) hpos
  have hexp : gridOf q + 52 = Int.log 2 q := by
    unfold gridOf at hgrid ⊢
    omega
  rwa [hexp]

theorem Rounded.abs_sub_le (h : Rounded q v) : |v - q| ≤ 2 ^ gridOf q / 2 := by
  obtain ⟨m, hm, rfl⟩ := h
  have hpos : (0 : ℚ) < 2 ^ gridOf q := by positivity
  calc |m * 2 ^ gridOf q - q| = |q / 2 ^ gridOf q - m| * 2 ^ gridOf q := by
        rw [abs_sub_comm, ← abs_of_pos hpos, ← abs_mul, abs_of_pos hpos, sub_mul,
          div_mul_cancel₀ _ hpos.ne']
    _ ≤ 1 / 2 * 2 ^ gridOf q := by gcongr; exact hm.abs_sub_le
    _ = 2 ^ gridOf q / 2 := by ring

theorem Rounded.nonneg (h : Rounded q v) : 0 ≤ v := by
  obtain ⟨m, -, rfl⟩ := h
  positivity

/-- A number that is on the grid is kept. -/
theorem rounded_of_grid {k : ℕ} {e : ℤ} (hq : q = k * 2 ^ e) (he : gridOf q ≤ e) : Rounded q q := by
  obtain ⟨j, hj⟩ := Int.eq_ofNat_of_zero_le (sub_nonneg.2 he)
  have hpow : (2 : ℚ) ^ e = 2 ^ j * 2 ^ gridOf q := by
    rw [← zpow_natCast, ← zpow_add₀ (by norm_num)]
    congr 1
    omega
  have hgrid : q = (k * 2 ^ j : ℕ) * 2 ^ gridOf q := by
    conv_lhs => rw [hq, hpow]
    push_cast
    ring
  refine ⟨k * 2 ^ j, ?_, hgrid⟩
  have hdiv : q / 2 ^ gridOf q = (k * 2 ^ j : ℕ) := by
    rw [div_eq_iff (by positivity)]
    exact hgrid
  rw [hdiv]
  exact nearest_natCast _

/-- What is nearest to a number below a power of two does not exceed it. -/
theorem Rounded.le_two_zpow {e : ℤ} (h : Rounded q v) (he : gridOf q ≤ e) (hle : q ≤ 2 ^ e) :
    v ≤ 2 ^ e := by
  obtain ⟨m, hm, rfl⟩ := h
  obtain ⟨j, hj⟩ := Int.eq_ofNat_of_zero_le (sub_nonneg.2 he)
  have hpow : (2 : ℚ) ^ e = (2 ^ j : ℕ) * 2 ^ gridOf q := by
    push_cast
    rw [← zpow_natCast, ← zpow_add₀ (by norm_num)]
    congr 1
    omega
  have hpos : (0 : ℚ) < 2 ^ gridOf q := by positivity
  have hdiv : q / 2 ^ gridOf q ≤ (2 ^ j : ℕ) := by rwa [div_le_iff₀ hpos, ← hpow]
  rw [hpow]
  gcongr
  exact hm.le (nearest_natCast _) hdiv

/-- **Rounding keeps the order of numbers.** -/
theorem Rounded.le (h : Rounded q v) (h' : Rounded q' v') (hpos : 0 ≤ q) (hle : q ≤ q') :
    v ≤ v' := by
  rcases hpos.eq_or_lt with rfl | hpos
  · obtain ⟨m, hm, rfl⟩ := h
    have hzero : m ≤ 0 := hm.le (nearest_natCast 0) (by simp)
    rw [Nat.le_zero.1 hzero]
    simpa using h'.nonneg
  have hgrid := gridOf_le hpos hle
  rcases hgrid.eq_or_lt with hsame | hlt
  · obtain ⟨m, hm, rfl⟩ := h
    obtain ⟨m', hm', rfl⟩ := h'
    rw [hsame] at hm ⊢
    gcongr
    exact hm.le hm' (by gcongr)
  -- The power of two at which the coarser grid starts lies between the two numbers.
  · have hmiddle : q ≤ 2 ^ (gridOf q' + 52) :=
      (lt_two_zpow_gridOf q).le.trans (zpow_le_zpow_right₀ (by norm_num) (by omega))
    have hbelow := h.le_two_zpow (by omega) hmiddle
    refine hbelow.trans ?_
    have hfloor : -1074 < gridOf q' := (le_max_left _ _).trans_lt hlt
    obtain ⟨m', hm', rfl⟩ := h'
    have hstart := two_zpow_gridOf_le (hpos.trans_le hle) hfloor
    rw [zpow_add₀ (by norm_num), mul_comm] at hstart ⊢
    have hmany : (2 ^ 52 : ℕ) ≤ m' := by
      refine (nearest_natCast _).le hm' ?_
      rw [le_div_iff₀ (by positivity)]
      exact_mod_cast hstart
    gcongr
    exact_mod_cast hmany

/-- There is one nearest double. -/
theorem Rounded.eq (h : Rounded q v) (h' : Rounded q v') (hpos : 0 ≤ q) : v = v' :=
  le_antisymm (h.le h' hpos le_rfl) (h'.le h hpos le_rfl)

theorem gridOf_le_of_lt {e : ℤ} (hq : 0 ≤ q) (hlt : q < 2 ^ (e + 53)) (he : -52 ≤ e) :
    gridOf q ≤ e := by
  have hlog : Int.log 2 q < e + 53 := by
    rcases hq.eq_or_lt with rfl | hpos
    · rw [Int.log_zero_right]
      omega
    · exact (Int.lt_zpow_iff_log_lt (by norm_num) hpos).1 (by exact_mod_cast hlt)
  unfold gridOf
  omega

theorem Rounded.abs_sub_le_of_lt {e : ℤ} (h : Rounded q v) (hq : 0 ≤ q) (hlt : q < 2 ^ (e + 53))
    (he : -52 ≤ e) : |v - q| ≤ 2 ^ e / 2 := by
  refine h.abs_sub_le.trans ?_
  gcongr
  · norm_num
  · exact gridOf_le_of_lt hq hlt he

/-- A natural of at most 53 binary digits is kept. -/
theorem rounded_natCast {k : ℕ} (hk : k < 2 ^ 53) : Rounded k k := by
  have hlt : (k : ℚ) < 2 ^ (0 + 53 : ℤ) := by exact_mod_cast hk
  have hgrid : gridOf k ≤ 0 := gridOf_le_of_lt (by positivity) hlt (by norm_num)
  exact rounded_of_grid (by rw [zpow_zero, mul_one]) hgrid

/-- What is nearest to a number that does not exceed such a natural does not either. -/
theorem Rounded.le_natCast {k : ℕ} (h : Rounded q v) (hq : 0 ≤ q) (hk : k < 2 ^ 53) (hle : q ≤ k) :
    v ≤ k :=
  h.le (rounded_natCast hk) hq hle

/-! ## Operations -/

theorem two_zpow_eq (e : ℤ) : (2 : ℚ) ^ e = 2 ^ e.toNat / 2 ^ (-e).toNat := by
  rcases le_total 0 e with h | h
  · have hneg : (-e).toNat = 0 := by omega
    rw [hneg, pow_zero, div_one, ← zpow_natCast, Int.toNat_of_nonneg h]
  · have hpos : e.toNat = 0 := by omega
    rw [hpos, pow_zero, one_div, ← zpow_natCast, Int.toNat_of_nonneg (by omega), zpow_neg, inv_inv]

theorem scaleByTwo_pos (n : ℕ) {d : ℕ} (hd : 0 < d) (e : ℤ) : 0 < (scaleByTwo n d e).2 :=
  Nat.mul_pos hd (Nat.two_pow_pos _)

theorem scaleByTwo_div (n : ℕ) {d : ℕ} (hd : 0 < d) (e : ℤ) :
    ((scaleByTwo n d e).1 : ℚ) / (scaleByTwo n d e).2 = n / d / 2 ^ e := by
  have hpos : (0 : ℚ) < d := by exact_mod_cast hd
  simp only [scaleByTwo, twoTo_eq, two_zpow_eq e]
  push_cast
  field_simp

/-- The two binary logarithms of a quotient leave a factor of two on either side. -/
theorem log2_sub_log2 {n d : ℕ} {k : ℤ} (hk : k = n.log2 - d.log2) (hn : 0 < n) (hd : 0 < d) :
    (2 : ℚ) ^ (k - 1) ≤ n / d ∧ (n : ℚ) / d < 2 ^ (k + 1) := by
  have hdpos : (0 : ℚ) < d := by exact_mod_cast hd
  constructor
  · have hn' : (2 : ℚ) ^ n.log2 ≤ n := by exact_mod_cast Nat.log2_self_le hn.ne'
    have hd' : (d : ℚ) ≤ 2 ^ (d.log2 + 1) := by exact_mod_cast Nat.lt_log2_self.le
    rw [le_div_iff₀ hdpos]
    calc (2 : ℚ) ^ (k - 1) * d ≤ 2 ^ (k - 1) * 2 ^ (d.log2 + 1) := by gcongr
      _ = 2 ^ n.log2 := by
          rw [← zpow_natCast, ← zpow_natCast, ← zpow_add₀ (by norm_num)]
          congr 1
          omega
      _ ≤ n := hn'
  · have hn' : (n : ℚ) < 2 ^ (n.log2 + 1) := by exact_mod_cast Nat.lt_log2_self
    have hd' : (2 : ℚ) ^ d.log2 ≤ d := by exact_mod_cast Nat.log2_self_le hd.ne'
    rw [div_lt_iff₀ hdpos]
    calc (n : ℚ) < 2 ^ (n.log2 + 1) := hn'
      _ = 2 ^ (k + 1) * 2 ^ d.log2 := by
          rw [← zpow_natCast, ← zpow_natCast, ← zpow_add₀ (by norm_num)]
          congr 1
          omega
      _ ≤ 2 ^ (k + 1) * d := by gcongr

theorem binaryExponent_eq_log {n d : ℕ} (hn : 0 < n) (hd : 0 < d) :
    binaryExponent n d = Int.log 2 ((n : ℚ) / d) := by
  have hpos : (0 : ℚ) < n / d := by positivity
  obtain ⟨k, hk⟩ : ∃ k : ℤ, k = n.log2 - d.log2 := ⟨_, rfl⟩
  obtain ⟨hlow, hhigh⟩ := log2_sub_log2 hk hn hd
  have hle := (Int.zpow_le_iff_le_log (b := 2) (by norm_num) hpos).1 (by exact_mod_cast hlow)
  have hlt := (Int.lt_zpow_iff_log_lt (b := 2) (by norm_num) hpos).1 (by exact_mod_cast hhigh)
  have hscaled : (scaleByTwo n d k).2 ≤ (scaleByTwo n d k).1 ↔ k ≤ Int.log 2 ((n : ℚ) / d) := by
    have hbelow : (0 : ℚ) < (scaleByTwo n d k).2 := by exact_mod_cast scaleByTwo_pos n hd k
    rw [← Int.zpow_le_iff_le_log (b := 2) (by norm_num) hpos, ← @Nat.cast_le ℚ,
      ← one_le_div₀ hbelow, scaleByTwo_div n hd, one_le_div₀ (by positivity), Nat.cast_ofNat]
  simp only [binaryExponent, ← hk]
  split_ifs with h
  · have := hscaled.1 h
    omega
  · have := fun hle => h (hscaled.2 hle)
    omega

/-- What is packed is the number that is given, unless it is too large. -/
theorem exists_pack {m : ℕ} {e : ℤ} (negative : Bool) (he : e < 971) :
    ∃ m' e', pack negative m e = .finite negative m' e' ∧ (m' : ℚ) * 2 ^ e' = m * 2 ^ e := by
  unfold pack
  by_cases hm : m = twoTo 53
  · rw [if_pos hm]
    dsimp only
    rw [if_neg (by omega), hm]
    refine ⟨_, _, rfl, ?_⟩
    simp only [twoTo_eq]
    rw [zpow_add₀ (by norm_num)]
    push_cast
    ring
  · rw [if_neg hm]
    dsimp only
    rw [if_neg (by omega)]
    exact ⟨m, e, rfl, rfl⟩

/-- **A quotient is rounded to the nearest double**, if it is not too large. -/
theorem exists_rounded_ofRatio (negative : Bool) {n d : ℕ} (hd : 0 < d)
    (hq : gridOf ((n : ℚ) / d) < 971) :
    ∃ m e, ofRatio negative n d = .finite negative m e ∧ Rounded ((n : ℚ) / d) (m * 2 ^ e) := by
  unfold ofRatio
  split_ifs with hn
  · subst hn
    refine ⟨0, -1074, rfl, ?_⟩
    simpa using rounded_natCast (k := 0) (by norm_num)
  · have hgrid : max (-1074) (binaryExponent n d - 52) = gridOf ((n : ℚ) / d) := by
      rw [binaryExponent_eq_log (Nat.pos_of_ne_zero hn) hd, gridOf]
    dsimp only
    rw [hgrid]
    obtain ⟨m, e, hpack, hvalue⟩ := exists_pack negative hq
      (m := roundDiv (scaleByTwo n d (gridOf ((n : ℚ) / d))).1
        (scaleByTwo n d (gridOf ((n : ℚ) / d))).2)
    refine ⟨m, e, hpack, _, ?_, hvalue⟩
    rw [← scaleByTwo_div n hd]
    exact nearest_roundDiv _ (scaleByTwo_pos n hd _)

theorem exists_rounded_mul {m n : ℕ} {e f : ℤ} (hq : gridOf (m * 2 ^ e * (n * 2 ^ f)) < 971) :
    ∃ k g, mul (.finite false m e) (.finite false n f) = .finite false k g ∧
      Rounded (m * 2 ^ e * (n * 2 ^ f)) (k * 2 ^ g) := by
  have hquotient : ((m * n * twoTo (e + f).toNat : ℕ) : ℚ) / (twoTo (-(e + f)).toNat : ℕ) =
      m * 2 ^ e * (n * 2 ^ f) := by
    rw [mul_mul_mul_comm, ← zpow_add₀ (by norm_num), two_zpow_eq (e + f)]
    simp only [twoTo_eq]
    push_cast
    rw [mul_div_assoc]
  rw [← hquotient] at hq ⊢
  exact exists_rounded_ofRatio false (Nat.two_pow_pos _) hq

theorem exists_rounded_roundHundredths {m : ℕ} {e : ℤ} :
    ∃ j : ℕ, Nearest (m * 2 ^ e * 100) j ∧ (gridOf ((j : ℚ) / 100) < 971 →
      ∃ k f, roundHundredths (.finite false m e) = .finite false k f ∧
        Rounded ((j : ℚ) / 100) (k * 2 ^ f)) := by
  refine ⟨_, ?_, fun hq => exists_rounded_ofRatio false (by norm_num) hq⟩
  have hscaled := scaleByTwo_div (m * 100) one_pos (-e)
  have hvalue : ((m * 100 : ℕ) : ℚ) / (1 : ℕ) / 2 ^ (-e) = m * 2 ^ e * 100 := by
    rw [zpow_neg, div_inv_eq_mul]
    push_cast
    ring
  rw [← hvalue, ← hscaled]
  exact nearest_roundDiv _ (scaleByTwo_pos _ one_pos _)

end Double

end FlowLens
