import DumpWorkbench.Decimal.Quick
import DumpWorkbench.Proofs.Decimal.Nearest

namespace DumpWorkbench.Binary64

variable {x y p : Binary64} {negative : Bool} {num den n : Nat} {v : ℚ}

theorem ofRatio_negative (negative : Bool) (num den : Nat) :
    ofRatio negative num den =
      (ofRatio false num den).map fun x => { x with negative := negative } := by
  by_cases hn : num = 0
  · rw [ofRatio, ofRatio, if_pos hn, if_pos hn]
    rfl
  · rw [ofRatio_eq hn, ofRatio_eq hn]
    split_ifs <;> rfl

/-- A number that is one or more is rounded by at most half a unit in the 53rd bit. -/
theorem ofRatio_error (hd : 0 < den) (hle : den ≤ num) (h : ofRatio negative num den = some x) :
    |x.magnitude - num / den| ≤ (num : ℚ) / den / 2 ^ 53 := by
  have hn : 0 < num := hd.trans_le hle
  have hone : (1 : ℚ) ≤ (num : ℚ) / den := by
    rw [one_le_div (by exact_mod_cast hd)]
    exact_mod_cast hle
  have hexp : exponentOf num den ≠ -1074 := by
    have hlog : ¬ (num : ℚ) / den < 2 ^ (0 : ℤ) := by simpa using hone
    rw [lt_zpow_iff (by positivity)] at hlog
    rw [exponentOf_eq hn hd]
    omega
  have hbits := le_ratio_of_exponentOf hn.ne' hd hexp
  have herror := roundQuotient_error (scale num den (exponentOf num den)).1
    (scale_snd_pos hd num (exponentOf num den))
  rw [magnitude_ofRatio hn.ne' hd h]
  rw [← rounded, scale_ratio] at herror
  generalize exponentOf num den = e at *
  generalize (num : ℚ) / den = v at *
  have he : (0 : ℚ) < 2 ^ e := by positivity
  have hunits : (rounded num den e : ℚ) * 2 ^ e - v =
      ((rounded num den e : ℚ) - v / 2 ^ e) * 2 ^ e := by
    rw [sub_mul, div_mul_cancel₀ v he.ne']
  rw [hunits, abs_mul, abs_of_pos he]
  have hhalf := mul_le_mul_of_nonneg_right herror he.le
  linarith

theorem Nearest.le_magnitude (h : x.Nearest v) (hy : y.Canonical) (hle : y.magnitude ≤ v) :
    y.magnitude ≤ x.magnitude := by
  have hclosest := h.closest y hy
  rw [abs_sub_comm y.magnitude, abs_of_nonneg (sub_nonneg.2 hle), abs_sub_comm] at hclosest
  linarith [le_abs_self (v - x.magnitude)]

theorem Canonical.magnitude_lt_bound (h : x.Canonical) : x.magnitude < bound := by
  by_cases hs : x.significand = 0
  · have hzero : x.magnitude = 0 := by rw [magnitude, hs, Nat.cast_zero, zero_mul]
    rw [hzero]
    exact lt_trans (by positivity) bound_bounds.1
  · rw [← ratio_magnitude, ← ofRatio_isSome_iff x.ratio_snd_pos x.negative, ofRatio_ratio h hs]
    rfl

theorem magnitude_nonneg (x : Binary64) : 0 ≤ x.magnitude := by
  rw [magnitude]
  positivity

theorem ratio_fst_pos_of_magnitude (h : 0 < x.magnitude) : 0 < x.ratio.1 := by
  rw [← ratio_magnitude] at h
  by_contra hzero
  rw [Nat.eq_zero_of_not_pos hzero, Nat.cast_zero, zero_div] at h
  exact lt_irrefl _ h

theorem times_isSome_iff : (x.times y).isSome ↔ x.magnitude * y.magnitude < bound := by
  rw [times, ofRatio_isSome_iff (Nat.mul_pos x.ratio_snd_pos y.ratio_snd_pos), Nat.cast_mul,
    Nat.cast_mul, mul_div_mul_comm, ratio_magnitude, ratio_magnitude]

theorem divided_isSome_iff (hy : 0 < y.magnitude) :
    (x.divided y).isSome ↔ x.magnitude / y.magnitude < bound := by
  rw [divided, ofRatio_isSome_iff (Nat.mul_pos x.ratio_snd_pos (ratio_fst_pos_of_magnitude hy)),
    Nat.cast_mul, Nat.cast_mul, mul_div_mul_comm, ratio_magnitude, ← inv_div (y.ratio.1 : ℚ),
    ratio_magnitude, div_eq_mul_inv]

theorem times_canonical (h : x.times y = some p) : p.Canonical :=
  (ofRatio_canonical (Nat.mul_pos x.ratio_snd_pos y.ratio_snd_pos) h).1

theorem divided_canonical (hy : 0 < y.magnitude) (h : x.divided y = some p) : p.Canonical :=
  (ofRatio_canonical (Nat.mul_pos x.ratio_snd_pos (ratio_fst_pos_of_magnitude hy)) h).1

theorem ofRatio_natCast_isSome_iff : (ofRatio negative n 1).isSome ↔ (n : ℚ) < bound := by
  rw [ofRatio_isSome_iff Nat.one_pos, Nat.cast_one, div_one]

theorem tenTo_isSome_iff : (tenTo n).isSome ↔ n ≤ 308 := by
  obtain ⟨hlow, hhigh⟩ := ten_bounds
  rw [tenTo, ofRatio_natCast_isSome_iff, Number.power, Nat.pow_eq, Nat.cast_pow, Nat.cast_ofNat]
  constructor
  · intro h
    by_contra hlt
    have hpow : (10 : ℚ) ^ 309 ≤ 10 ^ n := pow_le_pow_right₀ (by norm_num) (by omega)
    exact (hpow.trans_lt h).not_gt hhigh
  · intro h
    exact (pow_le_pow_right₀ (by norm_num) h).trans_lt hlow

theorem exists_tenTo : ∀ k ≤ 22, ∃ p, tenTo k = some p ∧ p.ratio.1 = 10 ^ k * p.ratio.2 := by
  have hall : ∀ k ≤ 22, (tenTo k).any (fun p => p.ratio.1 == 10 ^ k * p.ratio.2) = true := by
    decide +kernel
  intro k hk
  obtain ⟨p, hp, h⟩ := (Option.any_eq_true _ _).1 (hall k hk)
  exact ⟨p, hp, beq_iff_eq.1 h⟩

theorem one_le_tenTo (h : tenTo n = some p) : 1 ≤ p.magnitude := by
  have hone : (⟨false, 2 ^ 52, -52⟩ : Binary64).Canonical :=
    ⟨by norm_num, by simp, by simp, by simp⟩
  have hmagnitude : (⟨false, 2 ^ 52, -52⟩ : Binary64).magnitude = 1 := by norm_num [magnitude]
  rw [← hmagnitude]
  apply (ofRatio_nearest Nat.one_pos h).le_magnitude hone
  rw [hmagnitude, Number.power, Nat.pow_eq, Nat.cast_one, div_one]
  exact_mod_cast Nat.one_le_pow n 10 (by decide)

theorem divided_tenTo_isSome (hx : x.Canonical) (h : tenTo n = some p) : (x.divided p).isSome := by
  have hp := one_le_tenTo h
  rw [divided_isSome_iff (by linarith)]
  exact (div_le_self x.magnitude_nonneg hp).trans_lt hx.magnitude_lt_bound

/-- Small numbers are scaled to numbers. -/
theorem scaled_isSome {e : Int} (hx : x.Canonical) (he : e < 0) : (x.scaled e).isSome := by
  induction x, e using scaled.induct with
  | case1 x e hsmall =>
    obtain ⟨p, hp⟩ := Option.isSome_iff_exists.1 (tenTo_isSome_iff.2 hsmall)
    rw [scaled, if_pos hsmall, hp, Option.bind_eq_bind, Option.bind_some, if_neg (by omega)]
    exact divided_tenTo_isSome hx hp
  | case2 x e hlarge hzero => rw [scaled, if_neg hlarge, if_pos hzero, Option.isSome_some]
  | case3 x e hlarge hzero hpos => exact absurd he (by omega)
  | case4 x e hlarge hzero hpos ih =>
    obtain ⟨p, hp⟩ := Option.isSome_iff_exists.1 (tenTo_isSome_iff.2 (Nat.le_refl 308))
    obtain ⟨y, hy⟩ := Option.isSome_iff_exists.1 (divided_tenTo_isSome hx hp)
    have hp_pos : 0 < p.magnitude := by linarith [one_le_tenTo hp]
    rw [scaled, if_neg hlarge, if_neg hzero, if_neg hpos, hp]
    simp only [Option.bind_eq_bind, Option.bind_some, hy]
    exact ih y (divided_canonical hp_pos hy) (by omega)

/-- Other numbers than zero are scaled up by the powers of the table, if the product is finite. -/
theorem scaled_isSome_iff {e : Int} (he : 0 ≤ e) : (x.scaled e).isSome ↔
    x.significand = 0 ∨ ∃ p, tenTo e.toNat = some p ∧ x.magnitude * p.magnitude < bound := by
  have habs : e.natAbs = e.toNat := by omega
  rw [scaled, habs]
  by_cases hsmall : e.toNat ≤ 308
  · obtain ⟨p, hp⟩ := Option.isSome_iff_exists.1 (tenTo_isSome_iff.2 hsmall)
    rw [if_pos hsmall, hp, Option.bind_eq_bind, Option.bind_some, if_pos he, times_isSome_iff]
    constructor
    · exact fun h => .inr ⟨p, rfl, h⟩
    · rintro (hzero | ⟨q, hq, h⟩)
      · rw [magnitude, hzero, Nat.cast_zero, zero_mul, zero_mul]
        exact lt_trans (by positivity) bound_bounds.1
      · rwa [Option.some.inj hq]
  · have hnone : tenTo e.toNat = none := by
      rwa [← Option.not_isSome_iff_eq_none, tenTo_isSome_iff]
    rw [if_neg hsmall, if_pos he, hnone]
    split_ifs with hzero
    · exact iff_of_true rfl (.inl hzero)
    · refine iff_of_false Bool.false_ne_true ?_
      rintro (h | ⟨q, hq, -⟩)
      · exact hzero h
      · cases hq

theorem scaled_canonical {e : Int} (hx : x.Canonical) (h : x.scaled e = some y) : y.Canonical := by
  induction x, e using scaled.induct with
  | case1 x e hsmall =>
    rw [scaled, if_pos hsmall] at h
    obtain ⟨p, hp, h⟩ := Option.bind_eq_some_iff.1 h
    split_ifs at h
    · exact times_canonical h
    · exact divided_canonical (one_pos.trans_le (one_le_tenTo hp)) h
  | case2 x e hlarge hzero =>
    rw [scaled, if_neg hlarge, if_pos hzero] at h
    obtain rfl := Option.some.inj h
    exact hx
  | case3 x e hlarge hzero hpos =>
    rw [scaled, if_neg hlarge, if_neg hzero, if_pos hpos] at h
    cases h
  | case4 x e hlarge hzero hpos ih =>
    rw [scaled, if_neg hlarge, if_neg hzero, if_neg hpos] at h
    obtain ⟨p, hp, h⟩ := Option.bind_eq_some_iff.1 h
    obtain ⟨z, hz, h⟩ := Option.bind_eq_some_iff.1 h
    exact ih z (divided_canonical (one_pos.trans_le (one_le_tenTo hp)) hz) h

theorem quick_canonical {d : Decimal} (h : quick negative d = some x) : x.Canonical := by
  obtain ⟨y, hy, h⟩ := Option.bind_eq_some_iff.1 h
  exact scaled_canonical (ofRatio_canonical Nat.one_pos hy).1 h

end DumpWorkbench.Binary64

namespace DumpWorkbench.Decimal

open Binary64 (bound ofRatio quick tenTo)

variable {d : Decimal}

/-- The doubles nearest to the digits and to the power of ten have a product in the range of the
doubles. -/
def Finite (d : Decimal) : Prop :=
  d.digits = 0 ∨ d.exponent < 0 ∨
    ∃ x p, ofRatio false d.digits 1 = some x ∧ ofRatio false (10 ^ d.exponent.toNat) 1 = some p ∧
      x.magnitude * p.magnitude < bound

theorem digits_lt_bound (hd : d.digits < 2 ^ 64) : (d.digits : ℚ) < bound :=
  calc (d.digits : ℚ) < 2 ^ 64 := by exact_mod_cast hd
    _ ≤ 10 ^ 20 := by norm_num
    _ ≤ 10 ^ 308 := pow_le_pow_right₀ (by norm_num) (by norm_num)
    _ < bound := Binary64.ten_bounds.1

theorem exists_digits (hd : d.digits < 2 ^ 64) : ∃ x, ofRatio false d.digits 1 = some x :=
  Option.isSome_iff_exists.1 (Binary64.ofRatio_natCast_isSome_iff.2 (digits_lt_bound hd))

theorem near_natCast {n : Nat} {x : Binary64} (hn : n ≠ 0) (h : ofRatio false n 1 = some x) :
    (n : ℚ) * (1 - 1 / 2 ^ 53) ≤ x.magnitude ∧ x.magnitude ≤ n * (1 + 1 / 2 ^ 53) := by
  have herror := Binary64.ofRatio_error Nat.one_pos (Nat.one_le_iff_ne_zero.2 hn) h
  rw [Nat.cast_one, div_one, abs_le] at herror
  constructor <;> linarith

theorem significand_eq_zero_iff {n : Nat} {x : Binary64} (h : ofRatio false n 1 = some x) :
    x.significand = 0 ↔ n = 0 := by
  constructor
  · intro hs
    by_contra hn
    have hnear := (near_natCast hn h).1
    have hpos : (0 : ℚ) < n := by exact_mod_cast Nat.pos_of_ne_zero hn
    rw [Binary64.magnitude, hs, Nat.cast_zero, zero_mul] at hnear
    linarith
  · rintro rfl
    rw [← Option.some.inj h]
    rfl

/-- A decimal has a double near to it if it is in range. -/
theorem quick_isSome_iff (hd : d.digits < 2 ^ 64) (negative : Bool) :
    (quick negative d).isSome ↔ d.Finite := by
  obtain ⟨y, hy⟩ := exists_digits hd
  have hcanonical := (Binary64.ofRatio_canonical Nat.one_pos hy).1
  let x : Binary64 := { y with negative := negative }
  have hx : x.Canonical := ⟨hcanonical.1, hcanonical.2, hcanonical.3, hcanonical.4⟩
  rw [quick, Binary64.ofRatio_negative, hy, Option.map_some, Option.bind_eq_bind, Option.bind_some]
  by_cases hneg : d.exponent < 0
  · exact iff_of_true (Binary64.scaled_isSome hx hneg) (.inr (.inl hneg))
  rw [Binary64.scaled_isSome_iff (not_lt.1 hneg)]
  have hzero : y.significand = 0 ↔ d.digits = 0 := significand_eq_zero_iff hy
  constructor
  · rintro (hs | ⟨p, hp, h⟩)
    · exact .inl (hzero.1 hs)
    · exact .inr (.inr ⟨y, p, hy, hp, h⟩)
  · rintro (hdigits | hneg' | ⟨z, p, hz, hp, h⟩)
    · exact .inl (hzero.2 hdigits)
    · exact absurd hneg' hneg
    · obtain rfl := Option.some.inj (hy.symm.trans hz)
      exact .inr ⟨p, hp, h⟩

theorem toRat_eq (he : 0 ≤ d.exponent) : d.toRat = d.digits * (10 ^ d.exponent.toNat : Nat) := by
  rw [toRat, Nat.cast_pow, Nat.cast_ofNat, ← zpow_natCast, Int.toNat_of_nonneg he]

theorem finite_of_le (hd : d.digits < 2 ^ 64) (h : d.toRat * (1 + 3 / 2 ^ 53) ≤ bound) :
    d.Finite := by
  by_cases hzero : d.digits = 0
  · exact .inl hzero
  by_cases hneg : d.exponent < 0
  · exact .inr (.inl hneg)
  have hten : (1 : ℚ) ≤ (10 ^ d.exponent.toNat : Nat) := by
    exact_mod_cast Nat.one_le_pow _ 10 (by decide)
  have hdigits : (1 : ℚ) ≤ d.digits := by exact_mod_cast Nat.one_le_iff_ne_zero.2 hzero
  rw [toRat_eq (not_lt.1 hneg)] at h
  have hlt : ((10 ^ d.exponent.toNat : Nat) : ℚ) < bound := by nlinarith
  obtain ⟨x, hx⟩ := exists_digits hd
  obtain ⟨p, hp⟩ : ∃ p, Binary64.ofRatio false (10 ^ d.exponent.toNat) 1 = some p :=
    Option.isSome_iff_exists.1 (Binary64.ofRatio_natCast_isSome_iff.2 hlt)
  refine .inr (.inr ⟨x, p, hx, hp, ?_⟩)
  have hx' := (near_natCast hzero hx).2
  have hp' := (near_natCast (Nat.pow_pos (by decide)).ne' hp).2
  generalize ((10 ^ d.exponent.toNat : Nat) : ℚ) = t at *
  generalize (d.digits : ℚ) = n at *
  have hpos : 0 < n * t := by positivity
  calc x.magnitude * p.magnitude
      ≤ (n * (1 + 1 / 2 ^ 53)) * (t * (1 + 1 / 2 ^ 53)) :=
        mul_le_mul hx' hp' p.magnitude_nonneg (by positivity)
    _ = n * t * ((1 + 1 / 2 ^ 53) * (1 + 1 / 2 ^ 53)) := by ring
    _ < n * t * (1 + 3 / 2 ^ 53) := mul_lt_mul_of_pos_left (by norm_num) hpos
    _ ≤ bound := h

theorem Finite.toRat_lt (h : d.Finite) (hd : d.digits < 2 ^ 64) :
    d.toRat < bound * (1 + 3 / 2 ^ 53) := by
  have hbound : 0 < bound := lt_trans (by positivity) Binary64.ten_bounds.1
  by_cases hzero : d.digits = 0
  · rw [toRat, hzero, Nat.cast_zero, zero_mul]
    positivity
  by_cases hneg : d.exponent < 0
  · have hten : (10 : ℚ) ^ d.exponent ≤ 1 := zpow_le_one_of_nonpos₀ (by norm_num) hneg.le
    calc d.toRat ≤ d.digits * 1 := mul_le_mul_of_nonneg_left hten (Nat.cast_nonneg _)
      _ < bound * (1 + 3 / 2 ^ 53) :=
        mul_lt_mul (digits_lt_bound hd) (by norm_num) one_pos hbound.le
  obtain ⟨x, p, hx, hp, h⟩ := (h.resolve_left hzero).resolve_left hneg
  have hx' := (near_natCast hzero hx).1
  have hp' := (near_natCast (Nat.pow_pos (by decide)).ne' hp).1
  have hdigits : (0 : ℚ) < d.digits := by exact_mod_cast Nat.pos_of_ne_zero hzero
  have hpower : (0 : ℚ) < (10 ^ d.exponent.toNat : Nat) := by
    exact_mod_cast Nat.pow_pos (by decide : 0 < 10)
  rw [toRat_eq (not_lt.1 hneg)]
  generalize ((10 ^ d.exponent.toNat : Nat) : ℚ) = t at *
  generalize (d.digits : ℚ) = n at *
  calc n * t ≤ n * t * ((1 - 1 / 2 ^ 53) * (1 - 1 / 2 ^ 53) * (1 + 3 / 2 ^ 53)) :=
        le_mul_of_one_le_right (by positivity) (by norm_num)
    _ = n * (1 - 1 / 2 ^ 53) * (t * (1 - 1 / 2 ^ 53)) * (1 + 3 / 2 ^ 53) := by ring
    _ ≤ x.magnitude * p.magnitude * (1 + 3 / 2 ^ 53) := by
        have hone : (0 : ℚ) ≤ 1 - 1 / 2 ^ 53 := by norm_num
        gcongr
        exact x.magnitude_nonneg
    _ < bound * (1 + 3 / 2 ^ 53) := mul_lt_mul_of_pos_right h (by norm_num)

theorem quick_eq_ofRatio (hd : d.digits < 2 ^ 53) (he : d.exponent.natAbs ≤ 22)
    (negative : Bool) : quick negative d = ofRatio negative d.ratio.1 d.ratio.2 := by
  obtain ⟨x, hx, hxr⟩ := Binary64.exists_ofRatio_of_lt hd
  obtain ⟨p, hp, hpr⟩ := Binary64.exists_tenTo _ he
  have hsign : p.negative = false := (Binary64.ofRatio_canonical Nat.one_pos hp).2
  rw [quick, Binary64.ofRatio_negative, hx, Option.map_some, Option.bind_eq_bind, Option.bind_some,
    Binary64.scaled, if_pos (by omega), hp, Option.bind_eq_bind, Option.bind_some]
  split_ifs with hup
  · rw [Binary64.times, hsign, Bool.bne_false]
    apply Binary64.ofRatio_congr (Nat.mul_pos x.ratio_snd_pos p.ratio_snd_pos) d.ratio_snd_pos
    have hpower : d.exponent.natAbs = d.exponent.toNat := by omega
    have hnone : (-d.exponent).toNat = 0 := by omega
    change x.ratio.1 * p.ratio.1 * _ = _
    rw [hxr, hpr, hpower]
    simp only [ratio, hnone, Number.power, Nat.pow_eq]
    ring
  · rw [Binary64.divided, hsign, Bool.bne_false]
    have hpos : 0 < p.ratio.1 := hpr ▸ Nat.mul_pos (Nat.pow_pos (by decide)) p.ratio_snd_pos
    apply Binary64.ofRatio_congr (Nat.mul_pos x.ratio_snd_pos hpos) d.ratio_snd_pos
    have hpower : d.exponent.natAbs = (-d.exponent).toNat := by omega
    have hnone : d.exponent.toNat = 0 := by omega
    change x.ratio.1 * p.ratio.2 * _ = _ * (x.ratio.2 * _)
    rw [hxr, hpr, hpower]
    simp only [ratio, hnone, Number.power, Nat.pow_eq]
    ring

/-- Digits of 53 bits and powers of ten up to the 22nd are doubles themselves, so that a decimal
with these is rounded once: to the nearest double. -/
theorem quick_nearest {negative : Bool} {x : Binary64} (hd : d.digits < 2 ^ 53)
    (he : d.exponent.natAbs ≤ 22) (h : quick negative d = some x) : x.Nearest d.toRat := by
  rw [quick_eq_ofRatio hd he] at h
  rw [← ratio_toRat]
  exact Binary64.ofRatio_nearest d.ratio_snd_pos h

end DumpWorkbench.Decimal
