import DumpWorkbench.Proofs.Decimal.Quick

namespace DumpWorkbench.Binary64

variable {x : Binary64}

/-- The fifth of the greatest doubles. -/
def fifth : Binary64 := ⟨false, 2 ^ 53 - 5, 971⟩

theorem fifth_canonical : fifth.Canonical := ⟨by decide, by decide, by decide, .inr (by decide)⟩

theorem fifth_magnitude : fifth.magnitude = (2 ^ 53 - 5) * 2 ^ (971 : Int) := by
  rw [magnitude, fifth, Nat.cast_sub (by norm_num), Nat.cast_pow]
  rfl

theorem fifth_lt_bound : fifth.magnitude * (1 + 1 / 2 ^ 51) ≤ bound := by
  have hpos : (0 : ℚ) < 2 ^ (970 : Int) := by positivity
  have hsucc : (2 : ℚ) ^ (971 : Int) = 2 * 2 ^ (970 : Int) := by
    rw [← zpow_one_add₀ (by norm_num)]
    rfl
  rw [fifth_magnitude, bound_eq, hsucc, ← zpow_ofNat (2 : ℚ) 970]
  generalize (2 : ℚ) ^ (970 : Int) = t at *
  calc (2 ^ 53 - 5) * (2 * t) * (1 + 1 / 2 ^ 51)
      = (2 ^ 53 - 5) * 2 * (1 + 1 / 2 ^ 51) * t := by ring
    _ ≤ (2 ^ 54 - 1) * t := mul_le_mul_of_nonneg_right (by norm_num) hpos.le

theorem exists_greatest (hx : x.Canonical) (h : fifth.magnitude ≤ x.magnitude) :
    ∃ k < 5, x = ⟨x.negative, 2 ^ 53 - 1 - k, 971⟩ := by
  have hpos : (0 : ℚ) < 2 ^ (971 : Int) := by positivity
  rw [fifth_magnitude] at h
  have hexp : x.exponent = 971 := by
    by_contra hne
    have hle := h.trans (hx.magnitude_le (lt_of_le_of_ne hx.exponent_le hne))
    exact absurd (le_of_mul_le_mul_right hle hpos) (by norm_num)
  have hsignificand : 2 ^ 53 - 5 ≤ x.significand := by
    rw [magnitude, hexp] at h
    have hle := sub_le_iff_le_add.1 (le_of_mul_le_mul_right h hpos)
    exact Nat.sub_le_iff_le_add.2 (by exact_mod_cast hle)
  have hlt := hx.significand_lt
  refine ⟨2 ^ 53 - 1 - x.significand, by omega, ?_⟩
  have hback : 2 ^ 53 - 1 - (2 ^ 53 - 1 - x.significand) = x.significand := by omega
  rw [hback, ← hexp]

theorem ofDecimal_negative (negative : Bool) (d : Decimal) :
    ofDecimal negative d = (ofDecimal false d).map fun x => { x with negative := negative } := by
  unfold ofDecimal
  dsimp only
  split_ifs
  · rfl
  · rfl
  · rfl
  · exact ofRatio_negative negative _ _

theorem readsBack_negative (x : Binary64) (negative : Bool) (d : Decimal) :
    ({ x with negative := negative } : Binary64).readsBack d =
      ({ x with negative := false } : Binary64).readsBack d := by
  rw [readsBack, readsBack, Bool.eq_iff_iff, beq_iff_eq, beq_iff_eq, ofDecimal_negative]
  cases h : ofDecimal false d with
  | none => simp
  | some y =>
    have hsign := (ofDecimal_canonical h).2
    obtain ⟨sign, m, e⟩ := y
    simp_all

theorem shortest_negative (x : Binary64) (negative : Bool) :
    ({ x with negative := negative } : Binary64).shortest =
      ({ x with negative := false } : Binary64).shortest := by
  have hback : ({ x with negative := negative } : Binary64).readsBack =
      ({ x with negative := false } : Binary64).readsBack :=
    funext (x.readsBack_negative negative)
  unfold shortest
  rw [hback]
  rfl

/-- What is written for the greatest doubles. -/
def greatest : List Decimal :=
  [⟨17976931348623157, 292⟩, ⟨17976931348623155, 292⟩, ⟨17976931348623153, 292⟩,
    ⟨17976931348623151, 292⟩, ⟨1797693134862315, 293⟩]

theorem shortest_mem_greatest :
    ∀ k < 5, (Binary64.mk false (2 ^ 53 - 1 - k) 971).shortest ∈ greatest := by
  decide +kernel

end DumpWorkbench.Binary64
