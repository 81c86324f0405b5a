import DumpWorkbench.Proofs.Decimal.Quick
import DumpWorkbench.Proofs.Decimal.Shortest
import DumpWorkbench.Proofs.Json.Digits
import DumpWorkbench.Proofs.Outcome

namespace DumpWorkbench.Json

open Utf8 (encodeChar encodeChars)

variable {r : Bytes} {R : Rounding}

/-- All digits are kept, and a decimal is rounded to the nearest double. Read in this way, a number
is what was written. -/
def Rounding.exact : Rounding where
  keep ds fs := ⟨digitsValue (ds ++ fs), -fs.length⟩
  round := Binary64.ofDecimal

theorem keep_exact {ds fs : List Char} (hds : ∀ c ∈ ds, c.isDigit = true)
    (hfs : ∀ c ∈ fs, c.isDigit = true) :
    Rounding.exact.keep (encodeChars ds) (encodeChars fs) =
      ⟨Nat.ofDigitChars 10 (ds ++ fs) 0, -fs.length⟩ := by
  have hall : ∀ c ∈ ds ++ fs, c.isDigit = true := fun c hc =>
    (List.mem_append.1 hc).elim (hds c) (hfs c)
  change (⟨digitsValue (encodeChars ds ++ encodeChars fs), -(encodeChars fs).length⟩ : Decimal) = _
  rw [← Utf8.encodeChars_append, digitsValue_digits hall, length_encodeChars_digits hfs]

theorem real_congr {negative : Bool} {d d' : Decimal}
    (h : Binary64.ofDecimal negative d = Binary64.ofDecimal negative d') (r : Bytes) :
    real .exact negative d r = real .exact negative d' r := by
  simp only [real, Rounding.exact, h]

theorem number_integral {d : Nat} (hd : 0 < d) {e : Int} (he : 0 ≤ e) (hr : EndsNumber r)
    (negative : Bool) :
    number .exact negative
        (encodeChars (Nat.toDigits 10 d ++ List.replicate e.toNat '0' ++ ['.', '0']) ++ r)
      = real .exact negative ⟨d, e⟩ r := by
  have hzeros : ∀ c ∈ List.replicate e.toNat '0', c.isDigit = true := by
    intro c hc
    rw [List.eq_of_mem_replicate hc]
    rfl
  have hlead := leading_append hd hzeros
  rw [number_fraction hlead isDigit_of_mem_zero (List.cons_ne_nil _ _) hr.endsDigits,
    keep_exact hlead.digits isDigit_of_mem_zero, scaled_end hr]
  apply real_congr
  rw [List.append_assoc, ← List.replicate_succ', Nat.ofDigitChars_append,
    Nat.ofDigitChars_ten_toDigits, Nat.ofDigitChars_replicate_zero, Nat.mul_comm]
  have hexp : -((['0'] : List Char).length : Int) = e - ((e.toNat + 1 : Nat) : Int) := by
    simp only [List.length_cons, List.length_nil]
    omega
  rw [hexp]
  exact Binary64.ofDecimal_shift negative d e _

theorem number_positional {d k : Nat} (hd : 0 < d) (hk : 0 < k) {e : Int}
    (he : e = k - (Nat.toDigits 10 d).length) (he' : e < 0) (hr : EndsNumber r) (negative : Bool) :
    number .exact negative
        (encodeChars ((Nat.toDigits 10 d).take k ++ '.' :: (Nat.toDigits 10 d).drop k) ++ r)
      = real .exact negative ⟨d, e⟩ r := by
  have hdrop : ∀ c ∈ (Nat.toDigits 10 d).drop k, c.isDigit = true :=
    fun c hc => isDigit_of_toDigits d c (List.mem_of_mem_drop hc)
  have hne : (Nat.toDigits 10 d).drop k ≠ [] := by
    rw [ne_eq, List.drop_eq_nil_iff]
    omega
  have hexp : -(((Nat.toDigits 10 d).length - k : Nat) : Int) = e := by omega
  have hlead := leading_take hd hk
  rw [number_fraction hlead hdrop hne hr.endsDigits, keep_exact hlead.digits hdrop, scaled_end hr,
    List.take_append_drop, Nat.ofDigitChars_ten_toDigits, List.length_drop, hexp]

theorem number_small {d k : Nat} {e : Int} (he : e = -(k + (Nat.toDigits 10 d).length))
    (hr : EndsNumber r) (negative : Bool) :
    number .exact negative
        (encodeChars ('0' :: '.' :: (List.replicate k '0' ++ Nat.toDigits 10 d)) ++ r)
      = real .exact negative ⟨d, e⟩ r := by
  have hdigits : ∀ c ∈ List.replicate k '0' ++ Nat.toDigits 10 d, c.isDigit = true := by
    intro c hc
    rcases List.mem_append.1 hc with h | h
    · rw [List.eq_of_mem_replicate h]
      rfl
    · exact isDigit_of_toDigits d c h
  have hne : List.replicate k '0' ++ Nat.toDigits 10 d ≠ [] := by simp
  have hzero : ∀ cs : List Char,
      Nat.ofDigitChars 10 (['0'] ++ cs) 0 = Nat.ofDigitChars 10 cs 0 := by
    intro cs
    rw [Nat.ofDigitChars_append]
    rfl
  have h := number_fraction (R := .exact) leading_zero hdigits hne hr.endsDigits negative
  rw [keep_exact leading_zero.digits hdigits, scaled_end hr, hzero, Nat.ofDigitChars_append,
    Nat.ofDigitChars_replicate_zero, Nat.mul_zero,
    Nat.ofDigitChars_ten_toDigits, List.length_append, List.length_replicate] at h
  rw [he]
  push_cast at h
  exact h

theorem number_scientific {d : Nat} (hd : 0 < d) {e top : Int}
    (he : e = top + 1 - (Nat.toDigits 10 d).length) (htop : top.natAbs < Number.words31)
    (hr : EndsNumber r) (negative : Bool) :
    number .exact negative (encodeChars ((Nat.toDigits 10 d).take 1 ++
        (if (Nat.toDigits 10 d).length = 1 then [] else '.' :: (Nat.toDigits 10 d).drop 1) ++
        'e' :: exponentSign top :: Nat.toDigits 10 top.natAbs) ++ r)
      = real .exact negative ⟨d, e⟩ r := by
  split_ifs with h
  · have hexp : 0 + top = e := by omega
    have hkeep : Rounding.exact.keep (encodeChars (Nat.toDigits 10 d)) [] = ⟨d, 0⟩ := by
      have hall := keep_exact (isDigit_of_toDigits d) (List.forall_mem_nil _)
      rw [List.append_nil, Nat.ofDigitChars_ten_toDigits] at hall
      exact hall
    rw [List.append_nil, List.take_of_length_le h.le, number_exponent (leading_toDigits hd),
      scaled_exponent htop hr.endsDigits, hkeep]
    dsimp only
    rw [hexp]
  · have hdrop : ∀ c ∈ (Nat.toDigits 10 d).drop 1, c.isDigit = true :=
      fun c hc => isDigit_of_toDigits d c (List.mem_of_mem_drop hc)
    have hpos : 0 < (Nat.toDigits 10 d).length := Nat.length_toDigits_pos
    have hne : (Nat.toDigits 10 d).drop 1 ≠ [] := by
      rw [ne_eq, List.drop_eq_nil_iff]
      omega
    have hends := endsDigits_exponent top r
    have hexp : -(((Nat.toDigits 10 d).length - 1 : Nat) : Int) + top = e := by omega
    rw [Utf8.encodeChars_append, List.append_assoc,
      number_fraction (leading_take hd Nat.one_pos) hdrop hne hends,
      keep_exact (leading_take hd Nat.one_pos).digits hdrop, scaled_exponent htop hr.endsDigits,
      List.take_append_drop, Nat.ofDigitChars_ten_toDigits, List.length_drop]
    dsimp only
    rw [hexp]

theorem number_text {x : Decimal} (hr : EndsNumber r) (negative : Bool)
    (htop : (x.exponent + Decimal.size x.digits - 1).natAbs < Number.words31) :
    number .exact negative (encodeChars x.text ++ r) = real .exact negative x r := by
  obtain ⟨d, e⟩ := x
  have hlen : 0 < (Nat.toDigits 10 d).length := Nat.length_toDigits_pos
  change (e + (Nat.toDigits 10 d).length - 1).natAbs < Number.words31 at htop
  unfold Decimal.text
  dsimp only
  by_cases h₀ : d = 0
  · have h := number_fraction (R := .exact) leading_zero isDigit_of_mem_zero (List.cons_ne_nil _ _)
      hr.endsDigits negative
    rw [keep_exact isDigit_of_mem_zero isDigit_of_mem_zero, scaled_end hr] at h
    subst h₀
    rw [if_pos rfl]
    refine h.trans (real_congr ?_ r)
    rw [Binary64.ofDecimal_digits_zero]
    exact Binary64.ofDecimal_digits_zero negative _
  have hd : 0 < d := Nat.pos_of_ne_zero h₀
  rw [if_neg h₀]
  -- The cases are the layouts of a text: zeros behind the digits, a point inside them, zeros in
  -- front, and the exponent written out.
  by_cases h₁ : 0 ≤ e + (Nat.toDigits 10 d).length - 1 ∧ e + (Nat.toDigits 10 d).length - 1 ≤ 15
  · rw [if_pos h₁]
    split_ifs with h₂
    · exact number_integral hd h₂ hr negative
    · exact number_positional hd (Nat.succ_pos _) (by omega) (by omega) hr negative
  rw [if_neg h₁]
  by_cases h₂ : -5 ≤ e + (Nat.toDigits 10 d).length - 1 ∧ e + (Nat.toDigits 10 d).length - 1 < 0
  · rw [if_pos h₂]
    exact number_small (by omega) hr negative
  · have he : e = e + (Nat.toDigits 10 d).length - 1 + 1 - (Nat.toDigits 10 d).length := by omega
    rw [if_neg h₂]
    exact number_scientific hd he htop hr negative

/-- The numbers that reading yields: integers of 64 bits, signed or unsigned, and doubles. -/
def Number.Stored : Number → Prop
  | .integer i => -(2 ^ 63) ≤ i ∧ i < 2 ^ 64
  | .real x => x.Canonical

theorem number_integer {i : Int} (hi : (Number.integer i).Stored) (hr : EndsNumber r) :
    number R (decide (i < 0)) (encodeChars (Nat.toDigits 10 i.natAbs) ++ r) =
      .ok (.integer i, r) := by
  obtain ⟨hlow, hhigh⟩ := hi
  have hlead : Leading (Nat.toDigits 10 i.natAbs) := by
    rcases Nat.eq_zero_or_pos i.natAbs with h | h
    · rw [h, Nat.toDigits_zero]
      exact leading_zero
    · exact leading_toDigits h
  have h63 : Number.words63 = 2 ^ 63 := rfl
  have h64 : Number.words64 = 2 ^ 64 := rfl
  rw [number_digits hlead hr, integer, digitsValue_digits hlead.digits,
    Nat.ofDigitChars_ten_toDigits]
  by_cases hneg : i < 0
  · have hn : (0 < i.natAbs && decide (i.natAbs ≤ Number.words63)) = true := by
      simp only [h63, Bool.and_eq_true, decide_eq_true_eq]
      omega
    have hi : -(i.natAbs : Int) = i := by omega
    rw [if_pos (decide_eq_true hneg), if_pos hn, hi]
  · have hn : i.natAbs < Number.words64 := by omega
    have hi : (i.natAbs : Int) = i := by omega
    rw [if_neg (by simpa using hneg), if_pos hn, hi]

theorem number_real {x : Binary64} (hx : x.Canonical) (hr : EndsNumber r) :
    number .exact x.negative (encodeChars x.shortest.text ++ r) = .ok (.real x, r) := by
  have hback := Binary64.ofDecimal_shortest hx
  have htop : (x.shortest.exponent + Decimal.size x.shortest.digits - 1).natAbs <
      Number.words31 := by
    have h31 : Number.words31 = 2 ^ 31 := rfl
    by_cases hs : x.significand = 0
    · have hzero : x.shortest = ⟨0, 0⟩ := by rw [Binary64.shortest, if_pos hs]
      rw [hzero]
      decide
    · obtain ⟨-, hle, hge⟩ := Binary64.leading_bounds hback hs
      omega
  rw [number_text hr x.negative htop, real, show Rounding.exact.round x.negative x.shortest = _
    from hback]

theorem number_written {n : Number} (hn : n.Stored) (hr : EndsNumber r) :
    ∃ (negative : Bool) (cs : List Char), n.text = (if negative then ['-'] else []) ++ cs ∧
      number .exact negative (encodeChars cs ++ r) = .ok (n, r) := by
  cases n with
  | integer i =>
    refine ⟨decide (i < 0), Nat.toDigits 10 i.natAbs, ?_, number_integer hn hr⟩
    rw [Number.text, integerText]
    by_cases hneg : i < 0
    · rw [if_pos hneg, if_pos (decide_eq_true hneg)]
      rfl
    · rw [if_neg hneg, if_neg (by simpa using hneg)]
      rfl
  | real x => exact ⟨x.negative, x.shortest.text, rfl, number_real hn hr⟩

/-- What is read as a number begins with a digit, its sign left out. -/
theorem head_of_number {negative : Bool} {x : Number × Bytes} (h : number R negative r = .ok x) :
    ∃ b t, r = b :: t ∧ isDigit b = true := by
  obtain ⟨⟨ds, rest⟩, hds, -⟩ := bind_eq_ok.1 h
  unfold integerDigits at hds
  cases r with
  | nil => cases hds
  | cons b t =>
    refine ⟨b, t, rfl, ?_⟩
    by_cases hb : b = 0x30
    · rw [hb]
      rfl
    · dsimp only at hds
      rw [if_neg hb] at hds
      by_contra hdigit
      rw [if_neg hdigit] at hds
      cases hds

theorem value_minus (depth : Nat) (r : Bytes) :
    value R depth (0x2D :: r) = (number R true r).map fun (n, rest) => (.number n, rest) := by
  unfold value
  rfl

theorem value_digit (depth : Nat) {b : UInt8} (hb : isDigit b = true) (r : Bytes) :
    value R depth (b :: r) = (number R false (b :: r)).map fun (n, rest) => (.number n, rest) := by
  have hrange : 0x30 ≤ b.toNat ∧ b.toNat ≤ 0x39 := by
    simpa [isDigit, UInt8.le_iff_toNat_le] using hb
  have hne {c : UInt8} (hc : c.toNat < 0x30 ∨ 0x39 < c.toNat) : b ≠ c := by
    rintro rfl
    omega
  have hspace : isSpace b = false := by
    simp [isSpace, hne]
  unfold value
  simp [skipSpace, hspace, hb, hne]

theorem value_of_number {n : Number} {t : Bytes} (h : number R false r = .ok (n, t)) (depth : Nat) :
    value R depth r = .ok (.number n, t) := by
  obtain ⟨b, u, rfl, hb⟩ := head_of_number h
  rw [value_digit depth hb, h]
  rfl

end DumpWorkbench.Json
