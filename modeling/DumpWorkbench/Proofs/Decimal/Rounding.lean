import DumpWorkbench.Decimal.Binary64
import Mathlib.Data.Int.Log
import Mathlib.Algebra.Order.Field.Power
import Mathlib.Data.Rat.Floor
import Mathlib.Tactic.FieldSimp
import Mathlib.Tactic.Linarith
import Mathlib.Tactic.NormNum
import Mathlib.Tactic.Ring

namespace DumpWorkbench.Binary64

theorem roundQuotient_mul_left {k : Nat} (hk : 0 < k) (num den : Nat) :
    roundQuotient (k * num) (k * den) = roundQuotient num den := by
  have hr : 2 * (k * (num % den)) = k * (2 * (num % den)) := by ring
  simp only [roundQuotient, Nat.mul_div_mul_left _ _ hk, Nat.mul_mod_mul_left, hr,
    Nat.mul_lt_mul_left hk]

theorem roundQuotient_mul_self {d : Nat} (hd : 0 < d) (q : Nat) : roundQuotient (q * d) d = q := by
  simp [roundQuotient, Nat.mul_div_cancel q hd, hd]

theorem div_le_roundQuotient (num den : Nat) : num / den ≤ roundQuotient num den := by
  unfold roundQuotient
  dsimp only
  split_ifs <;> omega

theorem roundQuotient_le (num den : Nat) : roundQuotient num den ≤ num / den + 1 := by
  unfold roundQuotient
  dsimp only
  split_ifs <;> omega

theorem scale_mul_left (k num den : Nat) (e : Int) :
    scale (k * num) (k * den) e = (k * (scale num den e).1, k * (scale num den e).2) := by
  simp only [scale, Nat.mul_assoc]

theorem scale_snd_pos {den : Nat} (hd : 0 < den) (num : Nat) (e : Int) :
    0 < (scale num den e).2 :=
  Nat.mul_pos hd (Nat.pow_pos (by decide))

theorem zpow_eq_div (e : Int) : (2 : ℚ) ^ e = 2 ^ e.toNat / 2 ^ (-e).toNat := by
  rcases Int.le_total 0 e with h | h
  · have he : (-e).toNat = 0 := by omega
    rw [he, pow_zero, div_one, ← zpow_natCast, Int.toNat_of_nonneg h]
  · have he : e.toNat = 0 := by omega
    rw [he, pow_zero, one_div, ← zpow_natCast, Int.toNat_of_nonneg (by omega), zpow_neg, inv_inv]

theorem scale_ratio (num den : Nat) (e : Int) :
    ((scale num den e).1 : ℚ) / (scale num den e).2 = (num : ℚ) / den / 2 ^ e := by
  have h : (0 : ℚ) < 2 ^ e.toNat := by positivity
  have h' : (0 : ℚ) < 2 ^ (-e).toNat := by positivity
  rw [zpow_eq_div]
  simp only [scale, Number.power, Nat.pow_eq]
  push_cast
  field_simp

theorem scale_div_lt_iff {den : Nat} (hd : 0 < den) (num : Nat) (e : Int) (k : Nat) :
    (scale num den e).1 / (scale num den e).2 < 2 ^ k ↔ (num : ℚ) / den < 2 ^ (k + e) := by
  have hpos := scale_snd_pos hd num e
  have hq : (0 : ℚ) < (scale num den e).2 := by exact_mod_cast hpos
  have he : (0 : ℚ) < 2 ^ e := by positivity
  rw [Nat.div_lt_iff_lt_mul hpos, zpow_add₀ (by norm_num), ← div_lt_iff₀ he, ← scale_ratio,
    div_lt_iff₀ hq, zpow_natCast]
  exact_mod_cast Iff.rfl

theorem ratio_bounds {num den : Nat} (hn : 0 < num) (hd : 0 < den) :
    (2 : ℚ) ^ ((num.log2 : Int) - den.log2 - 1) < (num : ℚ) / den ∧
      (num : ℚ) / den < 2 ^ ((num.log2 : Int) - den.log2 + 1) := by
  have hn₁ : (2 : ℚ) ^ num.log2 ≤ num := by exact_mod_cast Nat.log2_self_le hn.ne'
  have hn₂ : (num : ℚ) < 2 ^ (num.log2 + 1) := by exact_mod_cast Nat.lt_log2_self
  have hd₁ : (2 : ℚ) ^ den.log2 ≤ den := by exact_mod_cast Nat.log2_self_le hd.ne'
  have hd₂ : (den : ℚ) < 2 ^ (den.log2 + 1) := by exact_mod_cast Nat.lt_log2_self
  have hden : (0 : ℚ) < den := by exact_mod_cast hd
  constructor
  · rw [lt_div_iff₀ hden]
    calc (2 : ℚ) ^ ((num.log2 : Int) - den.log2 - 1) * den
        < 2 ^ ((num.log2 : Int) - den.log2 - 1) * 2 ^ (den.log2 + 1) :=
          mul_lt_mul_of_pos_left hd₂ (by positivity)
      _ = 2 ^ num.log2 := by
          rw [← zpow_natCast, ← zpow_natCast, ← zpow_add₀ (by norm_num)]
          congr 1
          push_cast
          ring
      _ ≤ num := hn₁
  · rw [div_lt_iff₀ hden]
    calc (num : ℚ) < 2 ^ (num.log2 + 1) := hn₂
      _ = 2 ^ ((num.log2 : Int) - den.log2 + 1) * 2 ^ den.log2 := by
          rw [← zpow_natCast, ← zpow_natCast, ← zpow_add₀ (by norm_num)]
          congr 1
          push_cast
          ring
      _ ≤ 2 ^ ((num.log2 : Int) - den.log2 + 1) * den :=
          mul_le_mul_of_nonneg_left hd₁ (by positivity)

theorem lt_zpow_iff {v : ℚ} (hv : 0 < v) (e : Int) : v < 2 ^ e ↔ Int.log 2 v < e := by
  exact_mod_cast Int.lt_zpow_iff_log_lt Nat.one_lt_two hv

/-- The exponent depends on the value of the ratio alone: the integer part gets 53 bits. -/
theorem exponentOf_eq {num den : Nat} (hn : 0 < num) (hd : 0 < den) :
    exponentOf num den = max (-1074) (Int.log 2 ((num : ℚ) / den) - 52) := by
  have hv : (0 : ℚ) < (num : ℚ) / den := by positivity
  -- The logarithms of both numbers leave two candidates, and the comparison picks one.
  obtain ⟨hlow, hhigh⟩ := ratio_bounds hn hd
  have hle := (lt_zpow_iff hv _).not.1 hlow.not_gt
  have hlt := (lt_zpow_iff hv _).1 hhigh
  have hiff := scale_div_lt_iff hd num ((num.log2 : Int) - den.log2 - 53) 53
  rw [lt_zpow_iff hv] at hiff
  have hwords : Number.words53 = 2 ^ 53 := rfl
  simp only [exponentOf, hwords, hiff]
  split_ifs <;> omega

theorem ofRatio_mul_left {k : Nat} (hk : 0 < k) (negative : Bool) (num : Nat) {den : Nat}
    (hd : 0 < den) : ofRatio negative (k * num) (k * den) = ofRatio negative num den := by
  by_cases hn : num = 0
  · simp [ofRatio, hn]
  have hkn : k * num ≠ 0 := Nat.mul_ne_zero hk.ne' hn
  have he : exponentOf (k * num) (k * den) = exponentOf num den := by
    rw [exponentOf_eq (Nat.pos_of_ne_zero hkn) (Nat.mul_pos hk hd),
      exponentOf_eq (Nat.pos_of_ne_zero hn) hd]
    push_cast
    rw [mul_div_mul_left _ _ (by exact_mod_cast hk.ne')]
  simp only [ofRatio, if_neg hkn, if_neg hn, he, scale_mul_left, roundQuotient_mul_left hk]

/-- The doubles that rounding yields: 53 bits, or fewer at the least exponent. -/
structure Canonical (x : Binary64) : Prop where
  significand_lt : x.significand < 2 ^ 53
  exponent_ge : -1074 ≤ x.exponent
  exponent_le : x.exponent ≤ 971
  normal : x.exponent = -1074 ∨ 2 ^ 52 ≤ x.significand

theorem canonical_zero (negative : Bool) : (zero negative).Canonical where
  significand_lt := Nat.pow_pos (by decide)
  exponent_ge := Int.le_refl (-1074)
  exponent_le := by simp [zero]
  normal := .inl rfl

theorem le_exponentOf (num den : Nat) : -1074 ≤ exponentOf num den := Int.le_max_left _ _

theorem scale_exponentOf_lt {num den : Nat} (hn : 0 < num) (hd : 0 < den) :
    (scale num den (exponentOf num den)).1 / (scale num den (exponentOf num den)).2 < 2 ^ 53 := by
  have hv : (0 : ℚ) < (num : ℚ) / den := by positivity
  rw [scale_div_lt_iff hd, lt_zpow_iff hv, exponentOf_eq hn hd]
  omega

theorem le_scale_exponentOf {num den : Nat} (hn : 0 < num) (hd : 0 < den)
    (he : exponentOf num den ≠ -1074) :
    2 ^ 52 ≤ (scale num den (exponentOf num den)).1 / (scale num den (exponentOf num den)).2 := by
  have hv : (0 : ℚ) < (num : ℚ) / den := by positivity
  rw [← Nat.not_lt, scale_div_lt_iff hd, lt_zpow_iff hv]
  rw [exponentOf_eq hn hd] at he ⊢
  omega

def rounded (num den : Nat) (e : Int) : Nat :=
  roundQuotient (scale num den e).1 (scale num den e).2

theorem ofRatio_eq {num : Nat} (hn : num ≠ 0) (negative : Bool) (den : Nat) :
    ofRatio negative num den =
      if rounded num den (exponentOf num den) < 2 ^ 53 then
        if exponentOf num den ≤ 971 then
          some ⟨negative, rounded num den (exponentOf num den), exponentOf num den⟩
        else none
      else
        if exponentOf num den + 1 ≤ 971 then
          some ⟨negative, rounded num den (exponentOf num den) / 2, exponentOf num den + 1⟩
        else none := by
  have hwords : Number.words53 = 2 ^ 53 := rfl
  unfold rounded
  rw [ofRatio, if_neg hn, hwords]
  dsimp only
  by_cases h : roundQuotient (scale num den (exponentOf num den)).1
      (scale num den (exponentOf num den)).2 < 2 ^ 53
  · rw [if_pos h, if_pos h]
  · rw [if_neg h, if_neg h]

theorem ofRatio_canonical {negative : Bool} {num den : Nat} {x : Binary64} (hd : 0 < den)
    (h : ofRatio negative num den = some x) : x.Canonical ∧ x.negative = negative := by
  by_cases hn : num = 0
  · rw [ofRatio, if_pos hn] at h
    obtain rfl := Option.some.inj h
    exact ⟨canonical_zero negative, rfl⟩
  rw [ofRatio_eq hn] at h
  have hge := le_exponentOf num den
  have hlt := scale_exponentOf_lt (Nat.pos_of_ne_zero hn) hd
  have hle := le_scale_exponentOf (Nat.pos_of_ne_zero hn) hd
  generalize exponentOf num den = e at *
  -- Rounding up may carry to the 54th bit, which halving takes back.
  have hm : _ ≤ rounded num den e := div_le_roundQuotient _ _
  have hm' : rounded num den e ≤ _ := roundQuotient_le _ _
  split_ifs at h with h₁ h₂ h₂
  all_goals
    obtain rfl := Option.some.inj h
    refine ⟨⟨?_, ?_, ?_, ?_⟩, rfl⟩ <;> dsimp only <;> omega

theorem ratio_snd_pos (x : Binary64) : 0 < x.ratio.2 := Nat.pow_pos (by decide)

theorem ratio_fst_pos {x : Binary64} (hs : x.significand ≠ 0) : 0 < x.ratio.1 :=
  Nat.mul_pos (Nat.pos_of_ne_zero hs) (Nat.pow_pos (by decide))

theorem scale_ratio_self (x : Binary64) :
    (scale x.ratio.1 x.ratio.2 x.exponent).1 =
      x.significand * (scale x.ratio.1 x.ratio.2 x.exponent).2 := by
  simp only [scale, ratio, Number.power, Nat.pow_eq]
  ring

theorem exponentOf_ratio {x : Binary64} (hx : x.Canonical) (hs : x.significand ≠ 0) :
    exponentOf x.ratio.1 x.ratio.2 = x.exponent := by
  have hn := ratio_fst_pos hs
  have hd := x.ratio_snd_pos
  have hv : (0 : ℚ) < (x.ratio.1 : ℚ) / x.ratio.2 := by positivity
  have hquot : (scale x.ratio.1 x.ratio.2 x.exponent).1 / (scale x.ratio.1 x.ratio.2 x.exponent).2
      = x.significand := by
    rw [scale_ratio_self, Nat.mul_div_cancel _ (scale_snd_pos hd _ _)]
  have h₁ := scale_div_lt_iff hd x.ratio.1 x.exponent 53
  have h₂ := scale_div_lt_iff hd x.ratio.1 x.exponent 52
  rw [hquot, lt_zpow_iff hv] at h₁ h₂
  obtain ⟨hlt, hge, hle, hnormal⟩ := hx
  rw [exponentOf_eq hn hd]
  omega

/-- A double is the nearest double to its own value. -/
theorem ofRatio_ratio {x : Binary64} (hx : x.Canonical) (hs : x.significand ≠ 0) :
    ofRatio x.negative x.ratio.1 x.ratio.2 = some x := by
  have hr : rounded x.ratio.1 x.ratio.2 x.exponent = x.significand := by
    rw [rounded, scale_ratio_self, roundQuotient_mul_self (scale_snd_pos x.ratio_snd_pos _ _)]
  rw [ofRatio_eq (ratio_fst_pos hs).ne', exponentOf_ratio hx hs, hr, if_pos hx.significand_lt,
    if_pos hx.exponent_le]

theorem exponentOf_one {n : Nat} (hn : n ≠ 0) :
    exponentOf n 1 = max (-1074) (Int.log 2 (n : ℚ) - 52) := by
  rw [exponentOf_eq (Nat.pos_of_ne_zero hn) Nat.one_pos, Nat.cast_one, div_one]

theorem ofRatio_of_exponent {n : Nat} (hn : n ≠ 0) (he : exponentOf n 1 ≤ 0) :
    ofRatio false n 1 =
      some ⟨false, n * 2 ^ (-exponentOf n 1).toNat, exponentOf n 1⟩ := by
  have hlt := scale_exponentOf_lt (Nat.pos_of_ne_zero hn) Nat.one_pos
  rw [ofRatio_eq hn]
  generalize exponentOf n 1 = e at *
  have hscale : scale n 1 e = (n * 2 ^ (-e).toNat, 1) := by
    have hnat : e.toNat = 0 := by omega
    rw [scale, hnat]
    rfl
  have hrounded : rounded n 1 e = n * 2 ^ (-e).toNat := by
    have hself := roundQuotient_mul_self Nat.one_pos (n * 2 ^ (-e).toNat)
    rw [Nat.mul_one] at hself
    rw [rounded, hscale]
    exact hself
  rw [hscale, Nat.div_one] at hlt
  rw [hrounded, if_pos hlt, if_pos (by omega)]

theorem ratio_of_exponent {d : Binary64} {n : Nat} (hn : n ≠ 0) (he : exponentOf n 1 ≤ 0)
    (hd : ofRatio false n 1 = some d) : d.ratio.1 = n * d.ratio.2 := by
  rw [ofRatio_of_exponent hn he] at hd
  obtain rfl := Option.some.inj hd
  have hnat : (exponentOf n 1).toNat = 0 := by omega
  simp [ratio, Number.power, hnat]

/-- A whole number of 53 bits is a double. -/
theorem exists_ofRatio_of_lt {n : Nat} (h : n < 2 ^ 53) :
    ∃ d : Binary64, ofRatio false n 1 = some d ∧ d.ratio.1 = n * d.ratio.2 := by
  by_cases hn : n = 0
  · subst hn
    exact ⟨zero false, if_pos rfl, by simp [zero, ratio]⟩
  have hlog : Int.log 2 (n : ℚ) < 53 := by
    have hpos : (0 : ℚ) < n := by exact_mod_cast Nat.pos_of_ne_zero hn
    rw [← lt_zpow_iff hpos]
    exact_mod_cast h
  have he : exponentOf n 1 ≤ 0 := by
    rw [exponentOf_one hn]
    omega
  have hd := ofRatio_of_exponent hn he
  exact ⟨_, hd, ratio_of_exponent hn he hd⟩

end DumpWorkbench.Binary64
