import DumpWorkbench.ByteCount
import DumpWorkbench.Proofs.Decimal.Nearest
import Mathlib.Data.Nat.Cast.Field

namespace DumpWorkbench.ByteCount

open Binary64

variable {n : Nat}

/-- Each division finds that another unit is reached. -/
theorem divisions_spec (num left den : Nat) :
    divisions num den left ≤ left ∧
      (0 < divisions num den left → den * 1024 ^ divisions num den left ≤ num) ∧
      (divisions num den left < left → num < den * 1024 ^ (divisions num den left + 1)) := by
  induction left generalizing den with
  | zero => simp [divisions]
  | succ left ih =>
    obtain ⟨hle, hreached, hbelow⟩ := ih (den * 1024)
    unfold divisions
    split
    · rename_i hunit
      generalize divisions num (den * 1024) left = k at *
      have hpow (j : Nat) : den * 1024 ^ (j + 1) = den * 1024 * 1024 ^ j := by
        rw [Nat.pow_succ', Nat.mul_assoc]
      refine ⟨Nat.succ_le_succ hle, fun _ => ?_, fun hlt => ?_⟩
      · rw [hpow]
        rcases Nat.eq_zero_or_pos k with rfl | hk
        · rwa [Nat.pow_zero, Nat.mul_one]
        · exact hreached hk
      · rw [hpow]
        exact hbelow (Nat.lt_of_succ_lt_succ hlt)
    · rename_i hunit
      refine ⟨Nat.zero_le _, fun hpos => absurd hpos (Nat.lt_irrefl 0), fun _ => ?_⟩
      rw [Nat.zero_add, Nat.pow_one]
      exact Nat.not_le.1 hunit

theorem unitIndex_le (n : Nat) : unitIndex n ≤ 3 := (divisions_spec n 3 1).1

theorem le_of_unitIndex (h : 0 < unitIndex n) : 1024 ^ unitIndex n ≤ n := by
  have hreached := (divisions_spec n 3 1).2.1 h
  rwa [Nat.one_mul] at hreached

theorem lt_of_unitIndex (h : unitIndex n < 3) : n < 1024 ^ (unitIndex n + 1) := by
  have hbelow := (divisions_spec n 3 1).2.2 h
  rwa [Nat.one_mul] at hbelow

theorem unitIndex_eq_zero_iff : unitIndex n = 0 ↔ n < 1024 := by
  constructor
  · intro h
    have hbelow := lt_of_unitIndex (n := n) (by omega)
    rwa [h] at hbelow
  · intro h
    by_contra hne
    have hreached := le_of_unitIndex (Nat.pos_of_ne_zero hne)
    have hunit : 1024 ^ 1 ≤ 1024 ^ unitIndex n := Nat.pow_le_pow_right (by decide) (by omega)
    omega

theorem ratio_dvd {d : Binary64} (hd : ofRatio false n 1 = some d) : d.ratio.2 ∣ d.ratio.1 := by
  by_cases hn : n = 0
  · subst hn
    obtain rfl := Option.some.inj ((if_pos rfl : ofRatio false 0 1 = _).symm.trans hd)
    simp [zero, ratio]
  by_cases he : exponentOf n 1 ≤ 0
  · exact ⟨n, (ratio_of_exponent hn he hd).trans (Nat.mul_comm _ _)⟩
  · have hexponent : 0 ≤ d.exponent := by
      rw [ofRatio_eq hn] at hd
      split_ifs at hd <;> (obtain rfl := Option.some.inj hd; dsimp only; omega)
    have hnat : (-d.exponent).toNat = 0 := by omega
    simp [ratio, Number.power, hnat]

theorem nearestDouble_eq {d : Binary64} (hd : ofRatio false n 1 = some d) :
    nearestDouble n = d.ratio.1 / d.ratio.2 := by
  rw [nearestDouble, hd]

theorem nearestDouble_of_lt (h : n < 2 ^ 53) : nearestDouble n = n := by
  obtain ⟨d, hd, hratio⟩ := exists_ofRatio_of_lt h
  rw [nearestDouble_eq hd, hratio, Nat.mul_div_cancel _ (ratio_snd_pos _)]

/-- The number that a count is told by is a nearest double. -/
theorem exists_nearestDouble (h : n < 2 ^ 64) :
    ∃ d : Binary64, d.Nearest n ∧ d.magnitude = nearestDouble n := by
  have hbound : (n : ℚ) / (1 : ℕ) < bound := by
    have hn : (n : ℚ) < 2 ^ (64 : ℤ) := by exact_mod_cast h
    have hpow : (2 : ℚ) ^ (64 : ℤ) ≤ 2 ^ (1023 : ℤ) :=
      zpow_le_zpow_right₀ (by norm_num) (by norm_num)
    rw [Nat.cast_one, div_one]
    exact (hn.trans_le hpow).trans bound_bounds.1
  obtain ⟨d, hd⟩ := Option.isSome_iff_exists.1
    ((ofRatio_isSome_iff Nat.one_pos false).2 hbound)
  have hnearest := ofRatio_nearest Nat.one_pos hd
  rw [Nat.cast_one, div_one] at hnearest
  have hden : (d.ratio.2 : ℚ) ≠ 0 := by exact_mod_cast d.ratio_snd_pos.ne'
  refine ⟨d, hnearest, ?_⟩
  rw [nearestDouble_eq hd, ← ratio_magnitude, Nat.cast_div (ratio_dvd hd) hden]

/-- A count of more than 53 bits is told by a great number. -/
theorem le_nearestDouble (h : n < 2 ^ 64) (hle : 2 ^ 53 ≤ n) : 1024 ^ 3 ≤ nearestDouble n := by
  obtain ⟨d, hnearest, hmagnitude⟩ := exists_nearestDouble h
  -- No double is closer, so not the one that is 2 ^ 52.
  have hcanonical : (⟨false, 2 ^ 52, 0⟩ : Binary64).Canonical :=
    ⟨by norm_num, by norm_num, by norm_num, .inr (le_refl _)⟩
  have hclosest := hnearest.closest _ hcanonical
  have hn : (2 : ℚ) ^ 53 ≤ n := by exact_mod_cast hle
  have hpower : (⟨false, 2 ^ 52, 0⟩ : Binary64).magnitude = 2 ^ 52 := by norm_num [magnitude]
  rw [hpower, hmagnitude, abs_sub_comm _ (n : ℚ), abs_sub_comm _ (n : ℚ),
    abs_of_nonneg (a := (n : ℚ) - 2 ^ 52) (by linarith)] at hclosest
  have hlow : (2 : ℚ) ^ 52 ≤ nearestDouble n := by
    have := le_of_abs_le hclosest
    linarith
  have hnat : 2 ^ 52 ≤ nearestDouble n := by exact_mod_cast hlow
  exact le_trans (by norm_num) hnat

theorem size_pos (index : Nat) : 0 < Number.power 1024 index := Nat.pow_pos (by decide)

theorem tenths_error (x index : Nat) :
    |(tenths x index : ℚ) / 10 * 1024 ^ index - x| ≤ 1024 ^ index / 20 := by
  have herror := roundQuotient_error (x * 10) (size_pos index)
  have hsize : ((Number.power 1024 index : Nat) : ℚ) = 1024 ^ index := by
    simp [Number.power]
  rw [← tenths, hsize] at herror
  have hpos : (0 : ℚ) < 1024 ^ index := by positivity
  generalize (1024 : ℚ) ^ index = size at *
  have hscaled : (tenths x index : ℚ) / 10 * size - x =
      (tenths x index - (x * 10 : ℕ) / size) * (size / 10) := by
    push_cast
    field_simp
  rw [hscaled, abs_mul, abs_of_pos (by positivity : 0 < size / 10)]
  calc |(tenths x index : ℚ) - (x * 10 : ℕ) / size| * (size / 10) ≤ 1 / 2 * (size / 10) :=
        mul_le_mul_of_nonneg_right herror (by positivity)
    _ = size / 20 := by ring

theorem le_tenths {x index : Nat} (h : 1024 ^ index ≤ x) : 10 ≤ tenths x index := by
  refine le_trans ?_ (div_le_roundQuotient _ _)
  rw [Nat.le_div_iff_mul_le (size_pos index), Nat.mul_comm]
  exact Nat.mul_le_mul_right 10 h

theorem tenths_le {x index : Nat} (h : x < 1024 ^ (index + 1)) : tenths x index ≤ 10240 := by
  refine (roundQuotient_le _ _).trans ?_
  have hlt : x * 10 / Number.power 1024 index < 10240 := by
    rw [Nat.div_lt_iff_lt_mul (size_pos index)]
    rw [Nat.pow_succ] at h
    have hpower : Number.power 1024 index = 1024 ^ index := rfl
    omega
  omega

theorem tenths_lt_iff (x index : Nat) : tenths x index < 10240 ↔ 20 * x < 20479 * 1024 ^ index := by
  rw [tenths, roundQuotient_lt_iff (size_pos index) (by decide) (by decide)]
  have hpower : Number.power 1024 index = 1024 ^ index := rfl
  rw [hpower]
  omega

/-- The count is short of a greater unit by half a tenth of its own at most. -/
def Brim (n : Nat) : Prop :=
  ∃ index, (index = 1 ∨ index = 2) ∧ n < 1024 ^ (index + 1) ∧
    20 * (1024 ^ (index + 1) - n) ≤ 1024 ^ index

theorem not_brim (h : 1024 ^ 3 ≤ n) : ¬ Brim n := by
  rintro ⟨index, rfl | rfl, hlt, -⟩ <;> omega

theorem brim_iff {index : Nat} (hindex : index = 1 ∨ index = 2) (hle : 1024 ^ index ≤ n)
    (hlt : n < 1024 ^ (index + 1)) : Brim n ↔ 20479 * 1024 ^ index ≤ 20 * n := by
  constructor
  · rintro ⟨other, hother, hbelow, hshort⟩
    rcases hindex with rfl | rfl <;> rcases hother with rfl | rfl <;> omega
  · intro hfull
    refine ⟨index, hindex, hlt, ?_⟩
    rw [Nat.pow_succ]
    omega

theorem text_of_bytes (h : unitIndex (nearestDouble n) = 0) : text n = s!"{n} B" := by
  unfold text
  dsimp only
  rw [if_pos h, h]
  exact String.append_assoc

theorem text_of_tenths {index : Nat} (h : unitIndex (nearestDouble n) = index) (hpos : 0 < index) :
    ∃ unit, units[index]? = some unit ∧
      let t := tenths (nearestDouble n) index
      text n = s!"{t / 10}.{t % 10} {unit}" := by
  have hunit : ∀ i ≤ 3, units[i]? = some (units.getD i "") := by decide
  have hle := unitIndex_le (nearestDouble n)
  refine ⟨units.getD index "", hunit index (h ▸ hle), ?_⟩
  unfold text
  dsimp only
  rw [h, if_neg hpos.ne']

/-- The brimming counts are those that are rounded up to 1024 of a unit that is not the greatest. -/
theorem brim_iff_tenths (hword : n < 2 ^ 64) (hpos : 0 < unitIndex (nearestDouble n)) :
    Brim n ↔ unitIndex (nearestDouble n) < 3 ∧
      tenths (nearestDouble n) (unitIndex (nearestDouble n)) = 10240 := by
  have hle := unitIndex_le (nearestDouble n)
  have hreached := le_of_unitIndex hpos
  have hbelow := lt_of_unitIndex (n := nearestDouble n)
  -- Up to 53 bits the double is the count itself, and beyond only the greatest unit is left.
  rcases Nat.lt_or_ge n (2 ^ 53) with hsmall | hgreat
  · rw [nearestDouble_of_lt hsmall] at *
    generalize unitIndex n = index at *
    rcases Nat.lt_or_ge index 3 with hlt | hge
    · have hbrim := brim_iff (by omega) hreached (hbelow hlt)
      have hfull := tenths_lt_iff n index
      have htop := tenths_le (hbelow hlt)
      rw [hbrim]
      omega
    · obtain rfl : index = 3 := by omega
      exact iff_of_false (not_brim hreached) fun h => absurd h.1 (by decide)
  · have hdouble := le_nearestDouble hword hgreat
    have hgreatest : ¬ unitIndex (nearestDouble n) < 3 := by
      intro hlt
      have hpow : 1024 ^ (unitIndex (nearestDouble n) + 1) ≤ 1024 ^ 3 :=
        Nat.pow_le_pow_right (by decide) hlt
      have := hbelow hlt
      omega
    exact iff_of_false (not_brim (by omega)) fun h => hgreatest h.1

theorem tenths_cast (t : Nat) : ((t / 10 : ℕ) : ℚ) + (t % 10 : ℕ) / 10 = t / 10 := by
  have hcut : ((10 * (t / 10) + t % 10 : ℕ) : ℚ) = t := by rw [Nat.div_add_mod]
  push_cast at hcut
  linarith

/-- A count is told by its bytes below 1024, and else by a number with one decimal place in a unit
that it reaches, half a tenth of the unit off at most besides the rounding to a double. The number
is below 1024, unless the unit is the greatest, exactly for the counts that are not brimming; for
those it is 1024. -/
theorem text_accurate (n : UInt64) :
    let count := n.toNat
    (count < 1024 → text count = s!"{count} B") ∧
    (1024 ≤ count → ∃ (whole tenth index : Nat) (unit : String) (d : Binary64),
      text count = s!"{whole}.{tenth} {unit}" ∧ tenth < 10 ∧ 1 ≤ index ∧
      units[index]? = some unit ∧ d.Nearest count ∧
      let x : ℚ := whole + tenth / 10
      let size : ℚ := 1024 ^ index
      1 ≤ x ∧ (x < 1024 ∨ index = 3 ↔ ¬ Brim count) ∧ (Brim count → x = 1024) ∧
        |x * size - count| ≤ size / 20 + |d.magnitude - count|) := by
  intro count
  have hword : count < 2 ^ 64 := n.toNat_lt
  have hzero : unitIndex (nearestDouble count) = 0 ↔ count < 1024 := by
    rw [unitIndex_eq_zero_iff]
    rcases Nat.lt_or_ge count (2 ^ 53) with hsmall | hgreat
    · rw [nearestDouble_of_lt hsmall]
    · have hdouble := le_nearestDouble hword hgreat
      omega
  refine ⟨fun h => text_of_bytes (hzero.2 h), fun h => ?_⟩
  have hpos : 0 < unitIndex (nearestDouble count) := Nat.pos_of_ne_zero (by omega)
  obtain ⟨unit, hunit, htext⟩ := text_of_tenths rfl hpos
  obtain ⟨d, hnearest, hmagnitude⟩ := exists_nearestDouble hword
  have hbrim := brim_iff_tenths hword hpos
  have hle := unitIndex_le (nearestDouble count)
  have hten := le_tenths (le_of_unitIndex hpos)
  have htop (hlt : unitIndex (nearestDouble count) < 3) := tenths_le (lt_of_unitIndex hlt)
  have herror := tenths_error (nearestDouble count) (unitIndex (nearestDouble count))
  rw [← hmagnitude] at herror
  generalize unitIndex (nearestDouble count) = index at *
  dsimp only at htext
  generalize tenths (nearestDouble count) index = t at *
  have hten' : (10 : ℚ) ≤ t := by exact_mod_cast hten
  have hfull : (t : ℚ) / 10 < 1024 ↔ t < 10240 := by
    rw [div_lt_iff₀ (by norm_num)]
    exact_mod_cast Iff.rfl
  refine ⟨t / 10, t % 10, index, unit, d, htext, Nat.mod_lt _ (by decide), hpos, hunit,
    hnearest, ?_⟩
  dsimp only
  rw [tenths_cast, hfull, hbrim]
  refine ⟨by linarith, by omega, fun hrounded => ?_, ?_⟩
  · rw [hrounded.2]
    norm_num
  · have htriangle := abs_sub_le ((t : ℚ) / 10 * 1024 ^ index) d.magnitude count
    linarith

/-- One byte below the next unit, the number is rounded up to 1024 of the smaller one. -/
theorem text_brimming :
    text 1048575 = "1024.0 KB" ∧ text 1048576 = "1.0 MB" ∧ text 1073741823 = "1024.0 MB" := by
  decide +kernel

end DumpWorkbench.ByteCount
