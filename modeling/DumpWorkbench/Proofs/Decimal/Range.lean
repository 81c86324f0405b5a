import DumpWorkbench.Proofs.Decimal.Shortest

namespace DumpWorkbench

namespace Decimal

def toRat (x : Decimal) : ℚ := x.digits * 10 ^ x.exponent

theorem ratio_toRat (x : Decimal) : (x.ratio.1 : ℚ) / x.ratio.2 = x.toRat := by
  have hsplit : (10 : ℚ) ^ x.exponent = 10 ^ x.exponent.toNat / 10 ^ (-x.exponent).toNat := by
    rcases Int.le_total 0 x.exponent with h | h
    · have he : (-x.exponent).toNat = 0 := by omega
      rw [he, pow_zero, div_one, ← zpow_natCast, Int.toNat_of_nonneg h]
    · have he : x.exponent.toNat = 0 := by omega
      rw [he, pow_zero, one_div, ← zpow_natCast, Int.toNat_of_nonneg (by omega), zpow_neg, inv_inv]
  rw [toRat, hsplit]
  simp only [ratio, Number.power, Nat.pow_eq]
  push_cast
  ring

theorem toRat_lt (x : Decimal) : x.toRat < 10 ^ ((size x.digits : Int) + x.exponent) := by
  have hlt : (x.digits : ℚ) < 10 ^ size x.digits := by
    exact_mod_cast (size_le_iff (size_pos x.digits)).1 le_rfl
  rw [zpow_add₀ (by norm_num), zpow_natCast]
  exact mul_lt_mul_of_pos_right hlt (by positivity)

end Decimal

namespace Binary64

/-- Where rounding leaves the range: half a unit past the greatest double, `2^1024 - 2^971`. -/
def bound : ℚ := 2 ^ 1024 - 2 ^ 970

theorem roundQuotient_lt_iff {num den k : Nat} (hd : 0 < den) (hk : 2 ∣ k) (hpos : 0 < k) :
    roundQuotient num den < k ↔ 2 * num < (2 * k - 1) * den := by
  obtain ⟨j, rfl⟩ := hk
  have hle := div_le_roundQuotient num den
  have hge := roundQuotient_le num den
  have hr := Nat.mod_lt num hd
  have hnum : 2 * num = den * (2 * (num / den)) + 2 * (num % den) := by
    have h := Nat.div_add_mod num den
    calc 2 * num = 2 * (den * (num / den) + num % den) := by rw [h]
      _ = _ := by ring
  rw [hnum, Nat.mul_comm _ den]
  -- The odd number below the bound is the only quotient whose remainder matters.
  rcases Nat.lt_trichotomy (num / den + 1) (2 * j) with hlt | heq | hgt
  · have hstep : den * (2 * (num / den) + 2) ≤ den * (2 * (2 * j) - 1) :=
      Nat.mul_le_mul_left den (by omega)
    rw [Nat.mul_add] at hstep
    exact iff_of_true (by omega) (by omega)
  · -- The quotient is odd, so a half goes up.
    have hodd : 2 * (2 * j) - 1 = 2 * (num / den) + 1 := by omega
    rw [hodd, Nat.mul_add, Nat.mul_one, Nat.add_lt_add_iff_left]
    unfold roundQuotient
    dsimp only
    split_ifs <;> omega
  · have hstep : den * (2 * (2 * j)) ≤ den * (2 * (num / den)) :=
      Nat.mul_le_mul_left den (by omega)
    have hless : den * (2 * (2 * j) - 1) ≤ den * (2 * (2 * j)) :=
      Nat.mul_le_mul_left den (by omega)
    exact iff_of_false (by omega) (by omega)

theorem bound_eq : bound = (2 ^ 54 - 1) * 2 ^ 970 := by
  have hsplit : (2 : ℚ) ^ 1024 = 2 ^ 54 * 2 ^ 970 := by rw [← pow_add]
  rw [bound, hsplit, sub_mul, one_mul]

theorem bound_bounds : (2 : ℚ) ^ (1023 : Int) < bound ∧ bound < 2 ^ (1024 : Int) := by
  have hpos : (0 : ℚ) < 2 ^ 970 := by positivity
  have hlow : (2 : ℚ) ^ (1023 : Int) = 2 ^ 53 * 2 ^ 970 := by rw [zpow_ofNat, ← pow_add]
  have hhigh : (2 : ℚ) ^ (1024 : Int) = 2 ^ 54 * 2 ^ 970 := by rw [zpow_ofNat, ← pow_add]
  rw [hlow, hhigh, bound_eq]
  exact ⟨mul_lt_mul_of_pos_right (by norm_num) hpos, mul_lt_mul_of_pos_right (by norm_num) hpos⟩

theorem bound_eq_natCast : bound = (((2 ^ 54 - 1) * 2 ^ 970 : Nat) : ℚ) := by
  rw [bound_eq, Nat.cast_mul, Nat.cast_sub (by norm_num), Nat.cast_pow, Nat.cast_pow]
  rfl

theorem ten_bounds : (10 : ℚ) ^ 308 < bound ∧ bound < 10 ^ 309 := by
  have hlow : 10 ^ 308 < (2 ^ 54 - 1) * 2 ^ 970 := by decide +kernel
  have hhigh : (2 ^ 54 - 1) * 2 ^ 970 < 10 ^ 309 := by decide +kernel
  rw [bound_eq_natCast]
  exact ⟨by exact_mod_cast hlow, by exact_mod_cast hhigh⟩

theorem rounded_lt_iff {num den : Nat} (hd : 0 < den) (e : Int) :
    rounded num den e < 2 ^ 53 ↔ (num : ℚ) / den < (2 ^ 53 - 1 / 2) * 2 ^ e := by
  have hpos := scale_snd_pos hd num e
  have hq : (0 : ℚ) < (scale num den e).2 := by exact_mod_cast hpos
  have he : (0 : ℚ) < 2 ^ e := by positivity
  rw [rounded, roundQuotient_lt_iff hpos (by norm_num) (by norm_num), ← div_lt_iff₀ he,
    ← scale_ratio, div_lt_iff₀ hq]
  have hcast : 2 * (scale num den e).1 < (2 * 2 ^ 53 - 1) * (scale num den e).2 ↔
      2 * ((scale num den e).1 : ℚ) < (2 * 2 ^ 53 - 1) * (scale num den e).2 := by
    have hone : 1 ≤ 2 * 2 ^ 53 := by norm_num
    rw [← Nat.cast_lt (α := ℚ)]
    push_cast [Nat.cast_sub hone]
    norm_num
  rw [hcast]
  constructor <;> intro h <;> linarith

/-- A ratio rounds to a double if it is below the bound. -/
theorem ofRatio_isSome_iff {num den : Nat} (hd : 0 < den) (negative : Bool) :
    (ofRatio negative num den).isSome ↔ (num : ℚ) / den < bound := by
  obtain ⟨hlow, hhigh⟩ := bound_bounds
  by_cases hn : num = 0
  · subst hn
    have hpos : (0 : ℚ) < 2 ^ (1023 : Int) := by positivity
    simp [ofRatio, hpos.trans hlow]
  have hv : (0 : ℚ) < (num : ℚ) / den := by
    have : 0 < num := Nat.pos_of_ne_zero hn
    positivity
  have hexp := exponentOf_eq (Nat.pos_of_ne_zero hn) hd
  have hsome : (ofRatio negative num den).isSome ↔ exponentOf num den ≤ 970 ∨
      exponentOf num den = 971 ∧ rounded num den (exponentOf num den) < 2 ^ 53 := by
    rw [ofRatio_eq hn]
    split_ifs <;> simp <;> omega
  rw [hsome]
  -- Only the last binade is cut: there the significand must not round up to a power of two.
  rcases lt_trichotomy (Int.log 2 ((num : ℚ) / den)) 1023 with hlt | heq | hgt
  · have hsmall := (lt_zpow_iff hv 1023).2 hlt
    exact iff_of_true (.inl (by omega)) (hsmall.trans hlow)
  · have he : exponentOf num den = 971 := by omega
    have hbound : ((2 : ℚ) ^ 53 - 1 / 2) * 2 ^ (971 : Int) = bound := by
      have hsucc : (2 : ℚ) ^ 971 = 2 ^ 970 * 2 := pow_succ 2 970
      rw [bound_eq, zpow_ofNat, hsucc]
      generalize (2 : ℚ) ^ 970 = a
      ring
    rw [he, rounded_lt_iff hd, hbound]
    exact ⟨fun h => h.elim (fun h => absurd h (by decide)) And.right, fun h => .inr ⟨rfl, h⟩⟩
  · have hlarge : ¬ (num : ℚ) / den < 2 ^ (1024 : Int) := by
      rw [lt_zpow_iff hv]
      omega
    exact iff_of_false (by omega) fun h => hlarge (h.trans hhigh)

end Binary64
end DumpWorkbench
