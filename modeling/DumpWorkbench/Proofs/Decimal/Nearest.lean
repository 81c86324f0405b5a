import DumpWorkbench.Proofs.Decimal.Range
import Mathlib.Data.Nat.Cast.Order.Field

namespace DumpWorkbench.Binary64

variable {num den : Nat} {x y : Binary64} {negative : Bool}

def magnitude (x : Binary64) : ℚ := x.significand * 2 ^ x.exponent

/-- No double is closer to the number. -/
structure Nearest (x : Binary64) (v : ℚ) : Prop where
  canonical : x.Canonical
  closest : ∀ y : Binary64, y.Canonical → |x.magnitude - v| ≤ |y.magnitude - v|

theorem roundQuotient_error (num : Nat) (hd : 0 < den) :
    |(roundQuotient num den : ℚ) - num / den| ≤ 1 / 2 := by
  have hcut := Nat.div_add_mod num den
  have hlt := Nat.mod_lt num hd
  have hbounds : 2 * (den * roundQuotient num den) ≤ 2 * num + den ∧
      2 * num ≤ 2 * (den * roundQuotient num den) + den := by
    unfold roundQuotient
    dsimp only
    split_ifs <;> (try rw [Nat.mul_succ]) <;> omega
  obtain ⟨hlow, hhigh⟩ := hbounds
  have hden : (0 : ℚ) < den := by exact_mod_cast hd
  have hlow' : 2 * ((den : ℚ) * roundQuotient num den) ≤ 2 * num + den := by exact_mod_cast hlow
  have hhigh' : 2 * (num : ℚ) ≤ 2 * (den * roundQuotient num den) + den := by exact_mod_cast hhigh
  have hdiff : (roundQuotient num den : ℚ) - num / den =
      (den * roundQuotient num den - num) / den := by
    field_simp
  rw [hdiff, abs_le, le_div_iff₀ hden, div_le_iff₀ hden]
  constructor <;> linarith

theorem roundQuotient_closest (num : Nat) (hd : 0 < den) (k : ℤ) :
    |(roundQuotient num den : ℚ) - num / den| ≤ |(k : ℚ) - num / den| := by
  have herror := roundQuotient_error num hd
  by_cases hk : k = roundQuotient num den
  · rw [hk, Int.cast_natCast]
  · -- Another integer is at least one away from the rounded quotient.
    have hapart : (1 : ℚ) ≤ |(k : ℚ) - roundQuotient num den| := by
      have hone : 1 ≤ |k - (roundQuotient num den : ℤ)| := Int.one_le_abs (sub_ne_zero.2 hk)
      exact_mod_cast hone
    have htriangle := abs_sub_le (k : ℚ) (num / den) (roundQuotient num den)
    rw [abs_sub_comm ((num : ℚ) / den)] at htriangle
    linarith

theorem ratio_magnitude (x : Binary64) : (x.ratio.1 : ℚ) / x.ratio.2 = x.magnitude := by
  rw [magnitude, zpow_eq_div]
  simp only [ratio, Number.power, Nat.pow_eq]
  push_cast
  ring

theorem magnitude_ofRatio (hn : num ≠ 0) (hd : 0 < den)
    (h : ofRatio negative num den = some x) :
    x.magnitude = rounded num den (exponentOf num den) * 2 ^ exponentOf num den := by
  have hlt := scale_exponentOf_lt (Nat.pos_of_ne_zero hn) hd
  rw [ofRatio_eq hn] at h
  generalize exponentOf num den = e at *
  have hle : rounded num den e ≤ _ := roundQuotient_le _ _
  split_ifs at h with hbits
  · obtain rfl := Option.some.inj h
    rfl
  · obtain rfl := Option.some.inj h
    have hcarry : rounded num den e = 2 ^ 53 := by omega
    rw [magnitude, hcarry, zpow_add_one₀ (by norm_num)]
    norm_num
    ring

theorem exists_units {e : ℤ} (h : e ≤ y.exponent) : ∃ k : ℤ, y.magnitude = k * 2 ^ e := by
  refine ⟨y.significand * 2 ^ (y.exponent - e).toNat, ?_⟩
  have hsplit : y.exponent = (y.exponent - e).toNat + e := by omega
  rw [magnitude]
  conv_lhs => rw [hsplit, zpow_add₀ (by norm_num), zpow_natCast]
  push_cast
  ring

theorem Canonical.magnitude_le (hy : y.Canonical) {e : ℤ} (h : y.exponent < e) :
    y.magnitude ≤ 2 ^ 52 * 2 ^ e := by
  have hlt : (y.significand : ℚ) ≤ 2 ^ 53 := by exact_mod_cast hy.significand_lt.le
  have hstep : (2 : ℚ) ^ y.exponent ≤ 2 ^ (e - 1) :=
    zpow_le_zpow_right₀ (by norm_num) (by omega)
  calc y.magnitude ≤ 2 ^ 53 * 2 ^ (e - 1) :=
        mul_le_mul hlt hstep (by positivity) (by positivity)
    _ = 2 ^ 52 * 2 ^ e := by
        rw [zpow_sub_one₀ (by norm_num)]
        ring

theorem le_ratio_of_exponentOf (hn : num ≠ 0) (hd : 0 < den) (he : exponentOf num den ≠ -1074) :
    (2 : ℚ) ^ 52 * 2 ^ exponentOf num den ≤ (num : ℚ) / den := by
  have hbits := le_scale_exponentOf (Nat.pos_of_ne_zero hn) hd he
  have hpow : (0 : ℚ) < 2 ^ exponentOf num den := by positivity
  have hquotient : ((2 ^ 52 : ℕ) : ℚ) ≤ ((scale num den (exponentOf num den)).1 /
      (scale num den (exponentOf num den)).2 : ℕ) := Nat.cast_le.2 hbits
  have hunits := hquotient.trans Nat.cast_div_le
  rw [scale_ratio, le_div_iff₀ hpow, Nat.cast_pow, Nat.cast_ofNat] at hunits
  exact hunits

/-- Rounding a ratio yields a nearest double. -/
theorem ofRatio_nearest (hd : 0 < den) (h : ofRatio negative num den = some x) :
    x.Nearest ((num : ℚ) / den) := by
  refine ⟨(ofRatio_canonical hd h).1, fun y hy => ?_⟩
  by_cases hn : num = 0
  · subst hn
    obtain rfl := Option.some.inj ((if_pos rfl : ofRatio negative 0 den = _).symm.trans h)
    have hzero : (zero negative).magnitude = 0 := by simp [zero, magnitude]
    rw [hzero, Nat.cast_zero, zero_div, sub_self, abs_zero]
    exact abs_nonneg _
  rw [magnitude_ofRatio hn hd h]
  have hle := le_ratio_of_exponentOf hn hd
  have hclosest := roundQuotient_closest (scale num den (exponentOf num den)).1
    (scale_snd_pos hd num (exponentOf num den))
  rw [← rounded, scale_ratio] at hclosest
  generalize exponentOf num den = e at *
  generalize (num : ℚ) / den = v at *
  generalize (rounded num den e : ℚ) = m at *
  have he : (0 : ℚ) < 2 ^ e := by positivity
  -- In units of the exponent the ratio is rounded to an integer.
  have hunits (k : ℤ) : |m * 2 ^ e - v| ≤ |k * 2 ^ e - v| := by
    have hscaled (z : ℚ) : |z * 2 ^ e - v| = |z - v / 2 ^ e| * 2 ^ e := by
      rw [← abs_of_pos he, ← abs_mul, abs_of_pos he, sub_mul, div_mul_cancel₀ v he.ne']
    rw [hscaled, hscaled]
    exact mul_le_mul_of_nonneg_right (hclosest k) he.le
  by_cases hexp : e ≤ y.exponent
  · obtain ⟨k, hk⟩ := exists_units hexp
    rw [hk]
    exact hunits k
  · -- What has a smaller exponent is farther below than a power of two in these units.
    have hy_le := hy.magnitude_le (not_le.1 hexp)
    have hge := hy.exponent_ge
    have hv := hle (by omega)
    have hpower := hunits (2 ^ 52)
    rw [Int.cast_pow, Int.cast_ofNat] at hpower
    generalize (2 : ℚ) ^ 52 * 2 ^ e = power at *
    calc |m * 2 ^ e - v| ≤ |power - v| := hpower
      _ = v - power := by rw [abs_sub_comm, abs_of_nonneg (sub_nonneg.2 hv)]
      _ ≤ v - y.magnitude := by linarith
      _ ≤ |y.magnitude - v| := by
          rw [abs_sub_comm]
          exact le_abs_self _

theorem ofDecimal_nearest {d : Decimal} (h : ofDecimal negative d = some x) (hone : 1 ≤ d.toRat) :
    x.Nearest d.toRat := by
  have hd : d.digits ≠ 0 := by
    intro hzero
    rw [Decimal.toRat, hzero, Nat.cast_zero, zero_mul] at hone
    exact absurd hone (by norm_num)
  have hlt := d.toRat_lt
  have htop : 0 < (Decimal.size d.digits : Int) + d.exponent := by
    by_contra hle
    have hsmall : (10 : ℚ) ^ ((Decimal.size d.digits : Int) + d.exponent) ≤ 1 :=
      zpow_le_one_of_nonpos₀ (by norm_num) (not_lt.1 hle)
    linarith
  have hle : (Decimal.size d.digits : Int) + d.exponent ≤ 310 := by
    by_contra hlarge
    rw [ofDecimal, if_neg hd, if_pos (by omega)] at h
    cases h
  rw [ofDecimal_eq hd hle (by omega)] at h
  rw [← Decimal.ratio_toRat]
  exact ofRatio_nearest d.ratio_snd_pos h

end DumpWorkbench.Binary64
