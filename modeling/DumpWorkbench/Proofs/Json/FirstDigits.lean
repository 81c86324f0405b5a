import DumpWorkbench.Proofs.Json.Numeral

namespace DumpWorkbench.Json

open Utf8 (encodeChars)

variable {ds : List Char} {n : Nat}

theorem ofDigitChars_div (hds : ∀ c ∈ ds, c.isDigit = true) (n : Nat) :
    Nat.ofDigitChars 10 ds n / 10 ^ ds.length = n := by
  induction ds generalizing n with
  | nil => rw [Nat.ofDigitChars_nil, List.length_nil, pow_zero, Nat.div_one]
  | cons c ds ih =>
    obtain ⟨hc, hds⟩ := List.forall_mem_cons.1 hds
    obtain ⟨-, hrange⟩ := encodeChar_digit hc
    have hzero : '0'.toNat = 48 := rfl
    rw [Nat.ofDigitChars_cons, List.length_cons, pow_succ, ← Nat.div_div_eq_div_mul, ih hds]
    omega

theorem le_ofDigitChars (hds : ∀ c ∈ ds, c.isDigit = true) (n : Nat) :
    n ≤ Nat.ofDigitChars 10 ds n :=
  calc n = Nat.ofDigitChars 10 ds n / 10 ^ ds.length := (ofDigitChars_div hds n).symm
    _ ≤ Nat.ofDigitChars 10 ds n := Nat.div_le_self ..

/-- The numbers lie between the same two neighbouring multiples of a unit, with many others below
them. -/
def Shared (a b : ℚ) : Prop :=
  ∃ (m : Nat) (u : ℚ), 0 < u ∧ 2 ^ 60 ≤ m ∧
    (m * u ≤ a ∧ a ≤ (m + 1) * u) ∧ m * u ≤ b ∧ b ≤ (m + 1) * u

theorem Shared.le {a b : ℚ} (h : Shared a b) :
    a ≤ b * (1 + 1 / 2 ^ 60) ∧ b ≤ a * (1 + 1 / 2 ^ 60) := by
  obtain ⟨m, u, hu, hm, ⟨hlow, hhigh⟩, hlow', hhigh'⟩ := h
  have hmany : (2 : ℚ) ^ 60 ≤ m := by exact_mod_cast hm
  have hunit : 2 ^ 60 * u ≤ m * u := mul_le_mul_of_nonneg_right hmany hu.le
  constructor <;> linarith

theorem div_pow_bounds (a i : Nat) (e : Int) :
    ((a / 10 ^ i : Nat) : ℚ) * 10 ^ (e + i) ≤ a * 10 ^ e ∧
      (a : ℚ) * 10 ^ e ≤ ((a / 10 ^ i : Nat) + 1) * 10 ^ (e + i) := by
  have hlow : ((a / 10 ^ i : Nat) : ℚ) * 10 ^ i ≤ a := by
    exact_mod_cast Nat.div_mul_le_self a (10 ^ i)
  have hhigh : (a : ℚ) ≤ ((a / 10 ^ i : Nat) + 1) * 10 ^ i := by
    have hlt := Nat.lt_mul_div_succ a (Nat.pow_pos (by decide) : 0 < 10 ^ i)
    rw [Nat.mul_comm] at hlt
    exact_mod_cast hlt.le
  have hunit : (0 : ℚ) ≤ 10 ^ e := by positivity
  rw [zpow_add₀ (by norm_num), zpow_natCast, mul_comm ((10 : ℚ) ^ e), ← mul_assoc, ← mul_assoc]
  exact ⟨mul_le_mul_of_nonneg_right hlow hunit, mul_le_mul_of_nonneg_right hhigh hunit⟩

/-- Decimals with the same digits down to some place are close to each other. -/
theorem shared_of_div {a b i j : Nat} {e e' : Int} (hmany : 2 ^ 60 ≤ a / 10 ^ i)
    (hdigits : b / 10 ^ j = a / 10 ^ i) (hplace : e' + j = e + i) :
    Shared (a * 10 ^ e) (b * 10 ^ e') := by
  refine ⟨a / 10 ^ i, 10 ^ (e + i), by positivity, hmany, div_pow_bounds a i e, ?_⟩
  rw [← hdigits, ← hplace]
  exact div_pow_bounds b j e'

namespace Numeral

/-- How many of the digits may be appended to a number before it has more than 64 bits. -/
def room (n : Nat) : List Char → Nat
  | [] => 0
  | c :: cs =>
    let m := 10 * n + (c.toNat - '0'.toNat)
    if m < 2 ^ 64 then room m cs + 1 else 0

/-- The first digits of the numeral, as many as 64 bits hold, with the power of ten for their place.
Where the digits before the point are too many, one behind it may still find room. -/
def first (x : Numeral) : Decimal :=
  let k := room 0 x.whole
  let n := Nat.ofDigitChars 10 (x.whole.take k) 0
  let j := room n x.fraction
  ⟨Nat.ofDigitChars 10 (x.fraction.take j) n, ((x.whole.length - k : Nat) : Int) - j + x.power⟩

theorem room_le (n : Nat) (ds : List Char) : room n ds ≤ ds.length := by
  induction ds generalizing n with
  | nil => exact Nat.le_refl 0
  | cons c ds ih =>
    unfold room
    dsimp only
    split_ifs
    · exact Nat.succ_le_succ (ih _)
    · exact Nat.zero_le _

/-- The digits that have room are the first ones up to the first that has none. -/
theorem room_spec (hds : ∀ c ∈ ds, c.isDigit = true) (hn : n < 2 ^ 64) :
    Nat.ofDigitChars 10 (ds.take (room n ds)) n < 2 ^ 64 ∧
      (room n ds < ds.length → 2 ^ 60 ≤ Nat.ofDigitChars 10 (ds.take (room n ds)) n) := by
  induction ds generalizing n with
  | nil => exact ⟨hn, fun h => absurd h (Nat.lt_irrefl 0)⟩
  | cons c ds ih =>
    obtain ⟨hc, hds⟩ := List.forall_mem_cons.1 hds
    obtain ⟨-, hrange⟩ := encodeChar_digit hc
    have hzero : '0'.toNat = 48 := rfl
    unfold room
    dsimp only
    split_ifs with hm
    · rw [List.take_succ_cons, Nat.ofDigitChars_cons, List.length_cons, Nat.succ_lt_succ_iff]
      exact ih hds hm
    · refine ⟨hn, fun _ => ?_⟩
      change 2 ^ 60 ≤ n
      omega

theorem gather_digits (hds : ∀ c ∈ ds, c.isDigit = true) (n : Nat) :
    gather n (encodeChars ds) =
      (Nat.ofDigitChars 10 (ds.take (room n ds)) n, encodeChars (ds.drop (room n ds))) := by
  induction ds generalizing n with
  | nil => rfl
  | cons c ds ih =>
    obtain ⟨hc, hds⟩ := List.forall_mem_cons.1 hds
    obtain ⟨-, hrange⟩ := encodeChar_digit hc
    have hbyte :
        n * 10 + ((UInt8.ofNat c.toNat).toNat - 0x30) = 10 * n + (c.toNat - '0'.toNat) := by
      rw [Utf8.toNat_byte (by omega), Nat.mul_comm]
      rfl
    have h64 : Number.words64 = 2 ^ 64 := rfl
    rw [encodeChars_digit_cons hc, gather, room, hbyte, h64]
    split_ifs with hm
    · rw [ih hds, List.take_succ_cons, List.drop_succ_cons, Nat.ofDigitChars_cons]
    · rw [List.take_zero, List.drop_zero, encodeChars_digit_cons hc]
      rfl

/-- What the reader keeps of a numeral are its first digits. -/
theorem kept_quick (x : Numeral) : x.kept .quick = x.first := by
  have hlen (k : Nat) : (encodeChars (x.whole.drop k)).length = x.whole.length - k := by
    rw [length_encodeChars_digits fun c hc => x.leading.digits c (List.mem_of_mem_drop hc),
      List.length_drop]
  have hlen' (k : Nat) : (encodeChars (x.fraction.drop k)).length = x.fraction.length - k := by
    rw [length_encodeChars_digits fun c hc => x.isDigit c (List.mem_of_mem_drop hc),
      List.length_drop]
  have hroom := room_le (Nat.ofDigitChars 10 (x.whole.take (room 0 x.whole)) 0) x.fraction
  simp only [kept, Rounding.quick, firstDigits, gather_digits x.leading.digits,
    gather_digits x.isDigit, hlen, hlen', length_encodeChars_digits x.isDigit, first,
    Nat.sub_sub_self hroom]

theorem kept_exact (x : Numeral) : x.kept .exact = x.decimal := by
  rw [kept, keep_exact x.leading.digits x.isDigit, decimal, significand, Int.sub_eq_add_neg,
    Int.add_comm]

theorem first_digits_lt (x : Numeral) : x.first.digits < 2 ^ 64 :=
  (room_spec x.isDigit (room_spec x.leading.digits (by norm_num)).1).1

theorem room_of_lt (hds : ∀ c ∈ ds, c.isDigit = true) (h : Nat.ofDigitChars 10 ds n < 2 ^ 64) :
    room n ds = ds.length := by
  induction ds generalizing n with
  | nil => rfl
  | cons c ds ih =>
    obtain ⟨-, hds⟩ := List.forall_mem_cons.1 hds
    rw [Nat.ofDigitChars_cons] at h
    rw [room, List.length_cons, if_pos ((le_ofDigitChars hds _).trans_lt h), ih hds h]

theorem first_of_lt {x : Numeral} (h : x.significand < 2 ^ 64) : x.first = x.decimal := by
  rw [significand, Nat.ofDigitChars_append] at h
  have hwhole := room_of_lt x.leading.digits ((le_ofDigitChars x.isDigit _).trans_lt h)
  rw [first, hwhole, List.take_length, room_of_lt x.isDigit h, List.take_length, decimal,
    significand, Nat.ofDigitChars_append]
  congr 1
  omega

theorem Denotes.nearest {x : Numeral} {y : Binary64} (h : x.Denotes .quick (.real y))
    (hdigits : x.significand < 2 ^ 53) (hpower : x.decimal.exponent.natAbs ≤ 22) :
    y.Nearest x.decimal.toRat := by
  cases h with
  | real _ _ hy =>
    rw [kept_quick, first_of_lt (hdigits.trans (by norm_num))] at hy
    exact Decimal.quick_nearest hdigits hpower hy

theorem room_div (hds : ∀ c ∈ ds, c.isDigit = true) (n : Nat) :
    Nat.ofDigitChars 10 ds n / 10 ^ (ds.length - room n ds) =
      Nat.ofDigitChars 10 (ds.take (room n ds)) n := by
  have h := ofDigitChars_div (fun c hc => hds c (List.mem_of_mem_drop (i := room n ds) hc))
    (Nat.ofDigitChars 10 (ds.take (room n ds)) n)
  rwa [← Nat.ofDigitChars_append, List.take_append_drop, List.length_drop] at h

/-- Where digits before the point are left, the last of them with room tells the place down to which
the digits agree. -/
theorem shared_of_whole (x : Numeral) (h : room 0 x.whole < x.whole.length) :
    Shared x.first.toRat x.decimal.toRat := by
  have hfull := (room_spec x.leading.digits (by norm_num : 0 < 2 ^ 64)).2 h
  have hwhole := room_div x.leading.digits 0
  simp only [first, Decimal.toRat, decimal, significand, Nat.ofDigitChars_append]
  generalize room 0 x.whole = k at *
  generalize Nat.ofDigitChars 10 (x.whole.take k) 0 = n at *
  have hlen := room_le n x.fraction
  have hfirst := ofDigitChars_div
    (fun c hc => x.isDigit c (List.mem_of_mem_take (i := room n x.fraction) hc)) n
  rw [List.length_take, min_eq_left hlen] at hfirst
  have hall := ofDigitChars_div x.isDigit (Nat.ofDigitChars 10 x.whole 0)
  apply shared_of_div (i := room n x.fraction) (j := x.fraction.length + (x.whole.length - k))
  · rwa [hfirst]
  · rw [pow_add, ← Nat.div_div_eq_div_mul, hall, hwhole, hfirst]
  · push_cast
    omega

/-- Where none is left, that place is the one of the last digit with room, if there is one
without. -/
theorem shared_of_fraction (x : Numeral) (h : room 0 x.whole = x.whole.length) :
    x.first.toRat = x.decimal.toRat ∨ Shared x.first.toRat x.decimal.toRat := by
  have hn := (room_spec x.leading.digits (by norm_num : 0 < 2 ^ 64)).1
  simp only [first, Decimal.toRat, decimal, significand, Nat.ofDigitChars_append]
  rw [h, List.take_length] at *
  generalize Nat.ofDigitChars 10 x.whole 0 = n at *
  have hdiv := room_div x.isDigit n
  have hfull := (room_spec x.isDigit hn).2
  rcases (room_le n x.fraction).lt_or_eq with hlt | hend
  · right
    apply shared_of_div (i := 0) (j := x.fraction.length - room n x.fraction)
    · rw [pow_zero, Nat.div_one]
      exact hfull hlt
    · rw [hdiv, pow_zero, Nat.div_one]
    · push_cast
      omega
  · left
    rw [hend, List.take_length]
    congr 2
    omega

theorem first_close (x : Numeral) : x.first.toRat ≤ x.decimal.toRat * (1 + 1 / 2 ^ 60) ∧
    x.decimal.toRat ≤ x.first.toRat * (1 + 1 / 2 ^ 60) := by
  have hnear : x.first.toRat = x.decimal.toRat ∨ Shared x.first.toRat x.decimal.toRat := by
    rcases (room_le 0 x.whole).lt_or_eq with hlt | hend
    · exact .inr (x.shared_of_whole hlt)
    · exact x.shared_of_fraction hend
  rcases hnear with heq | hshared
  · have hpos : 0 ≤ x.decimal.toRat := by
      rw [Decimal.toRat]
      positivity
    rw [heq]
    constructor <;> linarith
  · exact hshared.le

/-- The number is in the range of the doubles, as far as its first digits and its power of ten
tell. -/
def Finite (x : Numeral) : Prop := x.first.Finite

theorem finite_of_le {x : Numeral} (h : x.decimal.toRat * (1 + 1 / 2 ^ 51) ≤ Binary64.bound) :
    x.Finite := by
  apply Decimal.finite_of_le x.first_digits_lt
  have hpos : 0 ≤ x.decimal.toRat := by
    rw [Decimal.toRat]
    positivity
  calc x.first.toRat * (1 + 3 / 2 ^ 53)
      ≤ x.decimal.toRat * (1 + 1 / 2 ^ 60) * (1 + 3 / 2 ^ 53) :=
        mul_le_mul_of_nonneg_right x.first_close.1 (by norm_num)
    _ = x.decimal.toRat * ((1 + 1 / 2 ^ 60) * (1 + 3 / 2 ^ 53)) := mul_assoc ..
    _ ≤ x.decimal.toRat * (1 + 1 / 2 ^ 51) := mul_le_mul_of_nonneg_left (by norm_num) hpos
    _ ≤ Binary64.bound := h

theorem Finite.lt {x : Numeral} (h : x.Finite) :
    x.decimal.toRat < Binary64.bound * (1 + 1 / 2 ^ 51) := by
  have hbound : 0 < Binary64.bound := lt_trans (by positivity) Binary64.ten_bounds.1
  calc x.decimal.toRat ≤ x.first.toRat * (1 + 1 / 2 ^ 60) := x.first_close.2
    _ < Binary64.bound * (1 + 3 / 2 ^ 53) * (1 + 1 / 2 ^ 60) :=
        mul_lt_mul_of_pos_right (Decimal.Finite.toRat_lt h x.first_digits_lt) (by norm_num)
    _ = Binary64.bound * ((1 + 3 / 2 ^ 53) * (1 + 1 / 2 ^ 60)) := mul_assoc ..
    _ ≤ Binary64.bound * (1 + 1 / 2 ^ 51) := mul_le_mul_of_nonneg_left (by norm_num) hbound.le

theorem finite_of_isInteger {x : Numeral} (h : x.IsInteger) : x.Finite := by
  obtain ⟨hf, he, hrange⟩ := h
  have hrat : x.decimal.toRat = x.significand := by
    simp [Decimal.toRat, decimal, power_none he, hf]
  have hlt : (x.significand : ℚ) < 2 ^ 64 := by
    have hlt : x.significand < 2 ^ 64 := by split_ifs at hrange <;> omega
    exact_mod_cast hlt
  apply finite_of_le
  calc x.decimal.toRat * (1 + 1 / 2 ^ 51) ≤ 2 ^ 64 * (1 + 1 / 2 ^ 51) := by
        rw [hrat]
        exact mul_le_mul_of_nonneg_right hlt.le (by norm_num)
    _ ≤ 10 ^ 20 := by norm_num
    _ ≤ 10 ^ 308 := pow_le_pow_right₀ (by norm_num) (by norm_num)
    _ ≤ Binary64.bound := Binary64.ten_bounds.1.le

/-- The numbers that are read are those in range whose exponent has 31 bits, which an exponent below
zero and one of the number zero need not. -/
theorem exists_denotes_iff (x : Numeral) : (∃ n, x.Denotes .quick n) ↔
    x.Finite ∧ (x.first.digits ≠ 0 → x.power < 2 ^ 31) := by
  by_cases hint : x.IsInteger
  · exact iff_of_true ⟨_, .integer hint⟩
      ⟨finite_of_isInteger hint, fun _ => power_none hint.2.1 ▸ by decide⟩
  have hround := Decimal.quick_isSome_iff x.first_digits_lt x.negative
  rw [Option.isSome_iff_exists] at hround
  rw [Finite, ← hround, ← kept_quick]
  constructor
  · rintro ⟨n, hn⟩
    obtain ⟨hpower, y, hy, -⟩ := (denotes_real_iff hint).1 hn
    exact ⟨⟨y, hy⟩, hpower⟩
  · rintro ⟨⟨y, hy⟩, hpower⟩
    exact ⟨_, .real hint hpower hy⟩

theorem length_fraction_le (x : Numeral) : x.fraction.length ≤ x.chars.length := by
  by_cases hf : x.fraction = []
  · simp [hf]
  · simp only [chars, unsigned, hf, if_false, List.length_append, List.length_cons]
    omega

/-- The exponent of a short number in range has 31 bits. -/
theorem Finite.power_lt {x : Numeral} (h : x.Finite)
    (hlen : x.chars.length + 310 ≤ 2 ^ 31) (hne : x.first.digits ≠ 0) :
    x.power < 2 ^ 31 := by
  have hroom := room_le (Nat.ofDigitChars 10 (x.whole.take (room 0 x.whole)) 0) x.fraction
  have hfraction := x.length_fraction_le
  have hexponent : x.power - x.fraction.length ≤ x.first.exponent := by
    simp only [first]
    omega
  rcases h with h | h | ⟨y, p, -, hp, -⟩
  · exact absurd h hne
  · omega
  · have hten := Binary64.tenTo_isSome_iff.1 (Option.isSome_iff_exists.2 ⟨p, hp⟩)
    omega

end Numeral

end DumpWorkbench.Json
