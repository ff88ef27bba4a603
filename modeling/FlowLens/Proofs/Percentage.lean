/-
  Percentages of coverages.  Three roundings stand between the counts and the percentage
  that is told.  Together they move it by little, and never below a whole percentage that
  the counts reach.

  * `ToldAs`, the percentage that a share is told as, step by step;
  * `Coverage.PercentIs`, the percentage of some counts;
  * `percent_faithful`: all of it for counts of any size.
-/
import FlowLens.Proofs.Rounding
import FlowLens.Report.Summary
import Mathlib

namespace FlowLens

/-! ## From a share to a percentage -/

/-- The roundings on the way from a share `s` to the percentage `p`: that of the share,
    that of a hundred times the share, and that to two places, which goes through the
    nearest number of hundredths. -/
structure PercentSteps (s x y : ℚ) (k : ℕ) (p : ℚ) : Prop where
  share : Double.Rounded s x
  scaled : Double.Rounded (x * 100) y
  hundredths : Nearest (y * 100) k
  last : Double.Rounded (k / 100) p

/-- The percentage that a share is told as. -/
def ToldAs (s p : ℚ) : Prop :=
  ∃ x y k, PercentSteps s x y k p

variable {s s' x y p p' : ℚ} {k : ℕ}

/-- **Percentages are in the order of their shares.** -/
theorem ToldAs.le (h : ToldAs s p) (h' : ToldAs s' p') (hs : 0 ≤ s) (hle : s ≤ s') : p ≤ p' := by
  obtain ⟨x, y, k, h⟩ := h
  obtain ⟨x', y', k', h'⟩ := h'
  have hshare : x ≤ x' := h.share.le h'.share hs hle
  have hscaled : y ≤ y' :=
    h.scaled.le h'.scaled (mul_nonneg h.share.nonneg (by norm_num)) (by gcongr)
  have hhundredths : k ≤ k' := h.hundredths.le h'.hundredths (by gcongr)
  exact h.last.le h'.last (by positivity) (by gcongr)

theorem share_le_one (h : Double.Rounded s x) (hs : 0 ≤ s) (hone : s ≤ 1) : x ≤ 1 := by
  exact_mod_cast h.le_natCast hs (k := 1) (by norm_num) (by exact_mod_cast hone)

theorem scaled_le_hundred (h : Double.Rounded (x * 100) y) (hx : 0 ≤ x) (hone : x ≤ 1) :
    y ≤ 100 := by
  have hle : x * 100 ≤ (100 : ℕ) := by
    push_cast
    linarith
  exact_mod_cast h.le_natCast (by positivity) (by norm_num) hle

theorem hundredths_le (h : Nearest (y * 100) k) (hy : y ≤ 100) : k ≤ 10000 := by
  refine h.le (nearest_natCast 10000) ?_
  push_cast
  linarith

namespace PercentSteps

/-- The first two roundings do not matter much. -/
theorem abs_scaled_sub_lt (h : PercentSteps s x y k p) (hs : 0 ≤ s) (hone : s ≤ 1) :
    |y - s * 100| < 1 / 100000 := by
  have hx := share_le_one h.share hs hone
  have hnonneg := h.share.nonneg
  have hfirst : |x - s| ≤ 2 ^ (-52 : ℤ) / 2 :=
    h.share.abs_sub_le_of_lt hs (by norm_num; linarith) le_rfl
  have hsecond : |y - x * 100| ≤ 2 ^ (-46 : ℤ) / 2 :=
    h.scaled.abs_sub_le_of_lt (by positivity) (by norm_num; linarith) (by norm_num)
  rw [abs_le] at hfirst hsecond
  rw [abs_lt]
  norm_num at hfirst hsecond
  constructor <;> linarith

theorem hundredths_le_cast (h : PercentSteps s x y k p) (hs : 0 ≤ s) (hone : s ≤ 1) :
    (k : ℚ) ≤ 10000 := by
  have hy := scaled_le_hundred h.scaled h.share.nonneg (share_le_one h.share hs hone)
  exact_mod_cast hundredths_le h.hundredths hy

/-- **The percentage is near to a hundred times the share.** -/
theorem abs_sub_lt (h : PercentSteps s x y k p) (hs : 0 ≤ s) (hone : s ≤ 1) :
    |p - s * 100| < 51 / 10000 := by
  have hscaled := abs_lt.1 (h.abs_scaled_sub_lt hs hone)
  have hplaces := abs_le.1 h.hundredths.abs_sub_le
  have hk := h.hundredths_le_cast hs hone
  have hlast : |p - k / 100| ≤ 2 ^ (-46 : ℤ) / 2 :=
    h.last.abs_sub_le_of_lt (by positivity) (by norm_num; linarith) (by norm_num)
  rw [abs_le] at hlast
  rw [abs_lt]
  norm_num at hlast
  constructor <;> linarith

theorem le_hundred (h : PercentSteps s x y k p) (hs : 0 ≤ s) (hone : s ≤ 1) : p ≤ 100 := by
  have hk := h.hundredths_le_cast hs hone
  have hle : (k : ℚ) / 100 ≤ (100 : ℕ) := by
    push_cast
    linarith
  exact_mod_cast h.last.le_natCast (by positivity) (by norm_num) hle

/-- **A whole percentage is told as it is.** -/
theorem eq_of_whole {m : ℕ} (h : PercentSteps (m / 100) x y k p) (hm : m ≤ 100) : p = m := by
  have hm' : (m : ℚ) ≤ 100 := by exact_mod_cast hm
  have hscaled := abs_lt.1 (h.abs_scaled_sub_lt (by positivity) (by linarith))
  have hplaces := abs_le.1 h.hundredths.abs_sub_le
  -- The number of hundredths is less than one away from a hundred times `m`.
  have hk : k = m * 100 := by
    have hlow : k < m * 100 + 1 := by
      rw [← @Nat.cast_lt ℚ]
      push_cast
      linarith
    have hhigh : m * 100 < k + 1 := by
      rw [← @Nat.cast_lt ℚ]
      push_cast
      linarith
    omega
  have hlast := h.last
  rw [hk, Nat.cast_mul, Nat.cast_ofNat, mul_div_cancel_right₀ _ (by norm_num)] at hlast
  exact hlast.eq (Double.rounded_natCast (by omega)) (by positivity)

end PercentSteps

theorem ofInt_hundred : Double.ofInt 100 = .finite false (100 * 2 ^ 46) (-46) := by
  decide +kernel

/-- The percentage of a share that is kept as a double. -/
theorem exists_percent_of_share {m : ℕ} {e : ℤ} (h : Double.Rounded s (m * 2 ^ e)) (hs : 0 ≤ s)
    (hone : s ≤ 1) :
    ∃ p, ((Double.finite false m e).mul (.ofInt 100)).roundHundredths.value? = some p ∧
      ToldAs s p := by
  have hx : (m : ℚ) * 2 ^ e ≤ 1 := share_le_one h hs hone
  have hhundred : ((100 * 2 ^ 46 : ℕ) : ℚ) * 2 ^ (-46 : ℤ) = 100 := by norm_num
  have hgrid : Double.gridOf ((m : ℚ) * 2 ^ e * 100) ≤ 0 :=
    Double.gridOf_le_of_lt (by positivity) (by norm_num; linarith) (by norm_num)
  obtain ⟨m', e', hmul, hscaled⟩ :=
    Double.exists_rounded_mul (m := m) (n := 100 * 2 ^ 46) (e := e) (f := -46)
      (by rw [hhundred]; omega)
  rw [hhundred] at hscaled
  have hy : (m' : ℚ) * 2 ^ e' ≤ 100 := scaled_le_hundred hscaled (by positivity) hx
  obtain ⟨k, hk, hplaces⟩ := Double.exists_rounded_roundHundredths (m := m') (e := e')
  have hk' : (k : ℚ) ≤ 10000 := by exact_mod_cast hundredths_le hk hy
  have hgrid' : Double.gridOf ((k : ℚ) / 100) ≤ 0 :=
    Double.gridOf_le_of_lt (by positivity) (by norm_num; linarith) (by norm_num)
  obtain ⟨m'', e'', hround, hlast⟩ := hplaces (by omega)
  refine ⟨_, ?_, _, _, _, h, hscaled, hk, hlast⟩
  rw [ofInt_hundred, hmul, hround]
  rfl

/-! ## Counts -/

namespace Coverage

variable {c c' : Coverage}

/-- Counts that are not negative. -/
structure Counted (c : Coverage) : Prop where
  covered : 0 ≤ c.covered
  uncovered : 0 ≤ c.uncovered

/-- The covered part of all expressions. -/
def share (c : Coverage) : ℚ :=
  c.covered / c.total

theorem Counted.total_nonneg (h : c.Counted) : 0 ≤ c.total :=
  add_nonneg h.covered h.uncovered

theorem Counted.share_nonneg (h : c.Counted) : 0 ≤ c.share :=
  div_nonneg (by exact_mod_cast h.covered) (by exact_mod_cast h.total_nonneg)

theorem Counted.share_le_one (h : c.Counted) : c.share ≤ 1 := by
  refine div_le_one_of_le₀ ?_ (by exact_mod_cast h.total_nonneg)
  have hle : c.covered ≤ c.total := le_add_of_nonneg_right h.uncovered
  exact_mod_cast hle

/-- The percentage of some counts: what their share is told as, and 100 if there is
    nothing to count. -/
inductive PercentIs (c : Coverage) (p : ℚ) : Prop
  | nothing : c.total = 0 → p = 100 → PercentIs c p
  | part : 0 < c.total → ToldAs c.share p → PercentIs c p

/-- **Counts have a percentage**, which is kept as a double. -/
theorem Counted.exists_percent (h : c.Counted) :
    ∃ x p, c.percent? = some x ∧ x.value? = some p ∧ c.PercentIs p := by
  by_cases hzero : c.total = 0
  · refine ⟨.ofInt 100, 100, by rw [percent?, if_pos hzero], ?_, .nothing hzero rfl⟩
    exact_mod_cast Double.value?_ofInt (n := 100) (by decide)
  have htotal : 0 < c.total := h.total_nonneg.lt_of_ne' hzero
  have hquotient : ((c.covered.natAbs : ℕ) : ℚ) / (c.total.natAbs : ℕ) = c.share := by
    rw [Nat.cast_natAbs, Nat.cast_natAbs, abs_of_nonneg h.covered, abs_of_pos htotal, share]
  have hgrid : Double.gridOf c.share ≤ 0 :=
    Double.gridOf_le_of_lt h.share_nonneg (by norm_num; linarith [h.share_le_one]) (by norm_num)
  obtain ⟨m, e, hratio, hshare⟩ := Double.exists_rounded_ofRatio false (n := c.covered.natAbs)
    (Int.natAbs_pos.2 hzero) (by rw [hquotient]; omega)
  rw [hquotient] at hshare
  have hsign : (decide (c.covered < 0) != decide (c.total < 0)) = false := by
    rw [decide_eq_false h.covered.not_gt, decide_eq_false htotal.not_gt]
    rfl
  have hdivide : Double.divide c.covered c.total = some (.finite false m e) := by
    simp only [Double.divide, hsign, hratio]
  obtain ⟨p, hp, htold⟩ := exists_percent_of_share hshare h.share_nonneg h.share_le_one
  refine ⟨_, p, ?_, hp, .part htotal htold⟩
  rw [percent?, if_neg hzero, hdivide]
  rfl

theorem PercentIs.nonneg (h : c.PercentIs p) : 0 ≤ p := by
  rcases h with ⟨-, rfl⟩ | ⟨-, x, y, k, hsteps⟩
  · norm_num
  · exact hsteps.last.nonneg

theorem PercentIs.le_hundred (h : c.PercentIs p) (hc : c.Counted) : p ≤ 100 := by
  rcases h with ⟨-, rfl⟩ | ⟨-, x, y, k, hsteps⟩
  · exact le_rfl
  · exact hsteps.le_hundred hc.share_nonneg hc.share_le_one

/-- Percentages of the same number of expressions are in the order of those covered. -/
theorem PercentIs.le (h : c.PercentIs p) (h' : c'.PercentIs p') (hc : c.Counted)
    (htotal : c'.total = c.total) (hle : c.covered ≤ c'.covered) : p ≤ p' := by
  rcases h with ⟨hzero, rfl⟩ | ⟨hpos, htold⟩
  · rcases h' with ⟨-, rfl⟩ | ⟨hpos', -⟩
    · exact le_rfl
    · omega
  · rcases h' with ⟨hzero', -⟩ | ⟨-, htold'⟩
    · omega
    · refine htold.le htold' hc.share_nonneg ?_
      have hpos' : (0 : ℚ) ≤ c.total := by exact_mod_cast hpos.le
      rw [share, share, htotal]
      gcongr

/-- As many hundredths are told as that percentage. -/
theorem toldAs_whole {m : ℕ} (hm : m ≤ 100) : ToldAs (m / 100) m := by
  have hcounted : Counted ⟨m, 100 - m⟩ := ⟨by simp, by simpa using hm⟩
  have htotal : total ⟨m, 100 - m⟩ = 100 := add_sub_cancel _ _
  have hshare : share ⟨m, 100 - m⟩ = m / 100 := by
    rw [share, htotal]
    norm_num
  obtain ⟨_, p, -, -, ⟨hzero, -⟩ | ⟨-, htold⟩⟩ := hcounted.exists_percent
  · omega
  · rw [hshare] at htold
    obtain ⟨x, y, k, hsteps⟩ := htold
    obtain rfl := hsteps.eq_of_whole hm
    exact ⟨x, y, k, hsteps⟩

/-- **Rounding never falls short of a whole percentage** that the share reaches. -/
theorem PercentIs.le_of_reached {m : ℕ} (h : c.PercentIs p) (hm : m ≤ 100)
    (hreached : m * c.total ≤ 100 * c.covered) : (m : ℚ) ≤ p := by
  rcases h with ⟨-, rfl⟩ | ⟨hpos, htold⟩
  · exact_mod_cast hm
  · refine (toldAs_whole hm).le htold (by positivity) ?_
    have hpos' : (0 : ℚ) < c.total := by exact_mod_cast hpos
    rw [share, div_le_div_iff₀ (by norm_num) hpos', mul_comm (c.covered : ℚ)]
    exact_mod_cast hreached

end Coverage

/-! ## Thresholds -/

/-- The number that an amount is, if it is one. -/
def Amount.value? : Amount → Option ℚ
  | truth b => some (ofBool b)
  | whole n => some n
  | real x => x.value?

/-- Comparing an amount with a double compares their numbers. -/
theorem Amount.le_iff {least : Amount} {x : Double} {q : ℚ} (hleast : least.value? = some q)
    (hx : x.value? = some p) : least.le x = true ↔ q ≤ p := by
  cases least with
  | truth b =>
    obtain rfl := Option.some.inj hleast
    exact Double.intLe_iff hx
  | whole n =>
    obtain rfl := Option.some.inj hleast
    exact Double.intLe_iff hx
  | real y => exact Double.le_iff hleast hx

theorem CoverageReport.meets_eq {c : Coverage} {x : Double} (path : Text) (least : Amount)
    (hx : c.percent? = some x) :
    (CoverageReport.mk path .ok c).meets (some least) = .ok (least.le x) := by
  simp only [meets, percent, hx, if_pos]
  rfl

/-- **Percentages are faithful.**  Counts of any size that are not negative have a
    percentage.  It lies between 0 and 100, is in the order of the covered ones among as
    many expressions, and is near to the exact one; and whoever asks for a whole
    percentage that the counts reach is told that they do. -/
theorem percent_faithful {c : Coverage} (h : c.Counted) :
    ∃ x p, c.percent? = some x ∧ x.value? = some p ∧ 0 ≤ p ∧ p ≤ 100 ∧
      (∀ c' : Coverage, c'.Counted → c'.total = c.total → c.covered ≤ c'.covered →
        ∃ x' p', c'.percent? = some x' ∧ x'.value? = some p' ∧ p ≤ p') ∧
      (0 < c.total → |p - 100 * c.covered / c.total| < 51 / 10000) ∧
      ∀ (m : ℤ) (least : Amount) (path : Text), 0 ≤ m → m ≤ 100 →
        m * c.total ≤ 100 * c.covered → least.value? = some (m : ℚ) →
        (CoverageReport.mk path .ok c).meets (some least) = .ok true := by
  obtain ⟨x, p, hx, hp, hpercent⟩ := h.exists_percent
  refine ⟨x, p, hx, hp, hpercent.nonneg, hpercent.le_hundred h, ?_, ?_, ?_⟩
  · intro c' h' htotal hle
    obtain ⟨x', p', hx', hp', hpercent'⟩ := h'.exists_percent
    exact ⟨x', p', hx', hp', hpercent.le hpercent' h htotal hle⟩
  · intro hpos
    rcases hpercent with ⟨hzero, -⟩ | ⟨-, _, _, _, hsteps⟩
    · omega
    · have hnear := hsteps.abs_sub_lt h.share_nonneg h.share_le_one
      rwa [Coverage.share, div_mul_eq_mul_div, mul_comm] at hnear
  · intro m least path hlow hhigh hreached hleast
    obtain ⟨n, rfl⟩ := Int.eq_ofNat_of_zero_le hlow
    have hle : (n : ℚ) ≤ p := hpercent.le_of_reached (by exact_mod_cast hhigh) hreached
    rw [CoverageReport.meets_eq path least hx, (Amount.le_iff hleast hp).2 (by exact_mod_cast hle)]

/-- A share of 29 in 100 is kept as a double that is less than 29 when it is taken a
    hundred times, and yet reaches 29 percent. -/
theorem percent_twentyNine :
    (∃ share, Double.divide 29 100 = some share ∧
      (Double.ofInt 29).le (share.mul (.ofInt 100)) = false) ∧
    Coverage.Counted ⟨29, 71⟩ ∧
    ∃ x p, (Coverage.mk 29 71).percent? = some x ∧ x.value? = some p ∧ |p - 29| < 51 / 10000 ∧
      (CoverageReport.mk "a.js" .ok ⟨29, 71⟩).meets (some (.whole 29)) = .ok true := by
  have hcounted : Coverage.Counted ⟨29, 71⟩ := ⟨by decide, by decide⟩
  obtain ⟨x, p, hx, hp, -, -, -, hnear, hmeets⟩ := percent_faithful hcounted
  refine ⟨⟨_, rfl, by decide +kernel⟩, hcounted, x, p, hx, hp, ?_, ?_⟩
  · have hnear := hnear (by decide)
    norm_num [Coverage.total] at hnear
    exact hnear
  · exact hmeets 29 (.whole 29) "a.js" (by decide) (by decide) (by decide) rfl

end FlowLens
