import DumpWorkbench.Decimal.Shortest
import DumpWorkbench.Proofs.Decimal.Rounding

namespace DumpWorkbench

namespace Decimal

theorem size_le_iff {n k : Nat} (hk : 0 < k) : size n ≤ k ↔ n < 10 ^ k :=
  Nat.length_toDigits_le_iff (by decide) hk

theorem size_pos (n : Nat) : 0 < size n := Nat.length_toDigits_pos

theorem size_mul_ten {n : Nat} (hn : 0 < n) : size (n * 10) = size n + 1 := by
  have h := Nat.toDigits_append_toDigits (b := 10) (d := 0) (by decide) hn (by decide)
  rw [Nat.add_zero, Nat.mul_comm] at h
  simp [size, ← h]

theorem size_mul_pow {n : Nat} (hn : 0 < n) (k : Nat) : size (n * 10 ^ k) = size n + k := by
  induction k with
  | zero => simp
  | succ k ih =>
    rw [pow_succ, ← mul_assoc, size_mul_ten (Nat.mul_pos hn (Nat.pow_pos (by decide))), ih]
    omega

theorem ratio_snd_pos (x : Decimal) : 0 < x.ratio.2 := Nat.pow_pos (by decide)

end Decimal

namespace Binary64

theorem ofDecimal_eq {x : Decimal} (hx : x.digits ≠ 0)
    (hle : (Decimal.size x.digits : Int) + x.exponent ≤ 310)
    (hge : -330 ≤ (Decimal.size x.digits : Int) + x.exponent) (negative : Bool) :
    ofDecimal negative x = ofRatio negative x.ratio.1 x.ratio.2 := by
  rw [ofDecimal, if_neg hx, if_neg (by omega), if_neg (by omega)]

theorem ofDecimal_canonical {negative : Bool} {d : Decimal} {x : Binary64}
    (h : ofDecimal negative d = some x) : x.Canonical ∧ x.negative = negative := by
  unfold ofDecimal at h
  dsimp only at h
  split_ifs at h
  · obtain rfl := Option.some.inj h
    exact ⟨canonical_zero negative, rfl⟩
  · obtain rfl := Option.some.inj h
    exact ⟨canonical_zero negative, rfl⟩
  · exact ofRatio_canonical d.ratio_snd_pos h

theorem ofDecimal_digits_zero (negative : Bool) (e : Int) :
    ofDecimal negative ⟨0, e⟩ = some (zero negative) := by
  simp [ofDecimal]

theorem leading_bounds {negative : Bool} {d : Decimal} {x : Binary64}
    (h : ofDecimal negative d = some x) (hs : x.significand ≠ 0) :
    d.digits ≠ 0 ∧ (Decimal.size d.digits : Int) + d.exponent ≤ 310 ∧
      -330 ≤ (Decimal.size d.digits : Int) + d.exponent := by
  unfold ofDecimal at h
  dsimp only at h
  split_ifs at h with h₀ h₁ h₂
  · obtain rfl := Option.some.inj h
    exact absurd rfl hs
  · obtain rfl := Option.some.inj h
    exact absurd rfl hs
  · exact ⟨h₀, by omega, by omega⟩

theorem ofRatio_congr {num den num' den' : Nat} (hd : 0 < den) (hd' : 0 < den')
    (h : num * den' = num' * den) (negative : Bool) :
    ofRatio negative num den = ofRatio negative num' den' := by
  rw [← ofRatio_mul_left hd' negative num hd, ← ofRatio_mul_left hd negative num' hd',
    mul_comm den' num, h, mul_comm num' den, mul_comm den' den]

theorem ofDecimal_shift (negative : Bool) (d : Nat) (e : Int) (k : Nat) :
    ofDecimal negative ⟨d * 10 ^ k, e - k⟩ = ofDecimal negative ⟨d, e⟩ := by
  rcases Nat.eq_zero_or_pos d with rfl | hd
  · rw [Nat.zero_mul, ofDecimal_digits_zero, ofDecimal_digits_zero]
  have hdk : d * 10 ^ k ≠ 0 := (Nat.mul_pos hd (Nat.pow_pos (by decide))).ne'
  have htop : ((Decimal.size d + k : Nat) : Int) + (e - k) = Decimal.size d + e := by
    push_cast
    ring
  have hratio : ofRatio negative (Decimal.ratio ⟨d * 10 ^ k, e - k⟩).1
      (Decimal.ratio ⟨d * 10 ^ k, e - k⟩).2 =
      ofRatio negative (Decimal.ratio ⟨d, e⟩).1 (Decimal.ratio ⟨d, e⟩).2 := by
    apply ofRatio_congr (Decimal.ratio_snd_pos _) (Decimal.ratio_snd_pos _)
    have he : k + (e - k).toNat + (-e).toNat = e.toNat + (-(e - k)).toNat := by omega
    simp only [Decimal.ratio, Number.power, Nat.pow_eq]
    calc d * 10 ^ k * 10 ^ (e - k).toNat * 10 ^ (-e).toNat
        = d * 10 ^ (k + (e - k).toNat + (-e).toNat) := by ring
      _ = d * 10 ^ e.toNat * 10 ^ (-(e - k)).toNat := by rw [he]; ring
  simp only [ofDecimal, if_neg hdk, if_neg hd.ne', Decimal.size_mul_pow hd, htop, hratio]

theorem exact_digits_pos {x : Binary64} (hs : x.significand ≠ 0) : x.exact.digits ≠ 0 := by
  unfold exact
  split_ifs
  all_goals exact (Nat.mul_pos (Nat.pos_of_ne_zero hs) (Nat.pow_pos (by decide))).ne'

theorem exact_leading_le {x : Binary64} (hx : x.Canonical) :
    (Decimal.size x.exact.digits : Int) + x.exact.exponent ≤ 310 := by
  have hlt := hx.significand_lt
  unfold exact
  split_ifs with h
  · have hpow : x.significand * Number.power 2 x.exponent.toNat < 10 ^ 309 := by
      have he := hx.exponent_le
      calc x.significand * 2 ^ x.exponent.toNat
          < 2 ^ 53 * 2 ^ x.exponent.toNat :=
            Nat.mul_lt_mul_of_pos_right hlt (Nat.pow_pos (by decide))
        _ ≤ 2 ^ 53 * 2 ^ 971 := Nat.mul_le_mul_left _ (Nat.pow_le_pow_right (by decide) (by omega))
        _ < 10 ^ 309 := by decide +kernel
    have := (Decimal.size_le_iff (by decide)).2 hpow
    dsimp only
    omega
  · have hpow : x.significand * Number.power 5 (-x.exponent).toNat <
        10 ^ (16 + (-x.exponent).toNat) := by
      calc x.significand * 5 ^ (-x.exponent).toNat
          < 10 ^ 16 * 5 ^ (-x.exponent).toNat :=
            Nat.mul_lt_mul_of_pos_right (by omega) (Nat.pow_pos (by decide))
        _ ≤ 10 ^ 16 * 10 ^ (-x.exponent).toNat :=
            Nat.mul_le_mul_left _ (Nat.pow_le_pow_left (by decide) _)
        _ = 10 ^ (16 + (-x.exponent).toNat) := (pow_add _ _ _).symm
    have := (Decimal.size_le_iff (by omega)).2 hpow
    dsimp only
    omega

theorem two_pow_le_five_pow : 2 ^ 743 ≤ 5 ^ 331 := by
  calc 2 ^ 743 = (2 ^ 9) ^ 82 * 2 ^ 5 := by rw [← pow_mul, ← pow_add]
    _ ≤ (5 ^ 4) ^ 82 * 5 ^ 3 := Nat.mul_le_mul (Nat.pow_le_pow_left (by decide) 82) (by decide)
    _ = 5 ^ 331 := by rw [← pow_mul, ← pow_add]

theorem le_exact_leading {x : Binary64} (hx : x.Canonical) (hs : x.significand ≠ 0) :
    -330 ≤ (Decimal.size x.exact.digits : Int) + x.exact.exponent := by
  have hge := hx.exponent_ge
  have hpos := Decimal.size_pos x.exact.digits
  unfold exact at hpos ⊢
  split_ifs at hpos ⊢ with h
  · dsimp only
    omega
  · dsimp only at hpos ⊢
    by_contra hlt
    have hk : 331 < (-x.exponent).toNat := by omega
    have hsize : Decimal.size (x.significand * Number.power 5 (-x.exponent).toNat)
        ≤ (-x.exponent).toNat - 331 := by omega
    have hsmall := (Decimal.size_le_iff (by omega)).1 hsize
    have htwo : 2 ^ ((-x.exponent).toNat - 331) ≤ 5 ^ 331 :=
      (Nat.pow_le_pow_right (by decide) (by omega)).trans two_pow_le_five_pow
    -- So few digits would make the significand less than one.
    have hbig : 10 ^ ((-x.exponent).toNat - 331) ≤ x.significand * 5 ^ (-x.exponent).toNat := by
      calc 10 ^ ((-x.exponent).toNat - 331)
          = 2 ^ ((-x.exponent).toNat - 331) * 5 ^ ((-x.exponent).toNat - 331) := by
            rw [← mul_pow]
            norm_num
        _ ≤ 5 ^ 331 * 5 ^ ((-x.exponent).toNat - 331) := Nat.mul_le_mul_right _ htwo
        _ = 5 ^ (-x.exponent).toNat := by rw [← pow_add, Nat.add_sub_cancel' (by omega)]
        _ ≤ x.significand * 5 ^ (-x.exponent).toNat :=
            Nat.le_mul_of_pos_left _ (Nat.pos_of_ne_zero hs)
    exact absurd hsmall (Nat.not_lt.2 hbig)

theorem exact_ratio (x : Binary64) :
    x.exact.ratio.1 * x.ratio.2 = x.ratio.1 * x.exact.ratio.2 := by
  unfold exact
  split_ifs with h
  · have he : (-x.exponent).toNat = 0 := by omega
    simp [Decimal.ratio, ratio, Number.power, he]
  · have he : x.exponent.toNat = 0 := by omega
    simp only [Decimal.ratio, ratio, Number.power, Nat.pow_eq, he, pow_zero, mul_one]
    rw [mul_assoc, mul_comm (5 ^ _), ← mul_pow]
    norm_num

theorem ofDecimal_exact {x : Binary64} (hx : x.Canonical) (hs : x.significand ≠ 0) :
    ofDecimal x.negative x.exact = some x := by
  rw [ofDecimal_eq (exact_digits_pos hs) (exact_leading_le hx) (le_exact_leading hx hs),
    ofRatio_congr (Decimal.ratio_snd_pos _) x.ratio_snd_pos x.exact_ratio, ofRatio_ratio hx hs]

theorem eq_zero_of_significand {x : Binary64} (hx : x.Canonical) (hs : x.significand = 0) :
    x = zero x.negative := by
  obtain ⟨negative, m, e⟩ := x
  obtain rfl : m = 0 := hs
  have he : e = -1074 := hx.normal.resolve_right (by norm_num)
  rw [he]
  rfl

/-- What is written for a double is read as that double. -/
theorem ofDecimal_shortest {x : Binary64} (hx : x.Canonical) :
    ofDecimal x.negative x.shortest = some x := by
  unfold shortest
  split_ifs with hs
  · rw [ofDecimal_digits_zero, ← eq_zero_of_significand hx hs]
  cases hfound : (List.range 17).findSome? fun n => (x.neighbours (n + 1)).find? x.readsBack with
  -- The search need not succeed: all digits of the double are always enough.
  | none => exact ofDecimal_exact hx hs
  | some d =>
    obtain ⟨n, -, hn⟩ := List.exists_of_findSome?_eq_some hfound
    have hback : x.readsBack d = true := List.find?_some hn
    exact beq_iff_eq.1 hback

end Binary64
end DumpWorkbench
