import DumpWorkbench.Proofs.Json.Grammar
import DumpWorkbench.Proofs.Json.Number
import Mathlib.Data.List.TakeWhile

namespace DumpWorkbench.Json

open Utf8 (encodeChar encodeChars)

variable {bs r s t : Bytes} {ds : List Char} {b : UInt8} {negative : Bool} {n : Number}
  {R : Rounding}

theorem exists_digits (h : ∀ b ∈ bs, isDigit b = true) :
    ∃ ds : List Char, (∀ c ∈ ds, c.isDigit = true) ∧ bs = encodeChars ds := by
  induction bs with
  | nil => exact ⟨[], List.forall_mem_nil _, rfl⟩
  | cons b bs ih =>
    obtain ⟨hb, hbs⟩ := List.forall_mem_cons.1 h
    obtain ⟨ds, hds, rfl⟩ := ih hbs
    have hrange : 0x30 ≤ b.toNat ∧ b.toNat ≤ 0x39 := by
      simpa [isDigit, UInt8.le_iff_toNat_le] using hb
    have htoNat : (Char.ofNat b.toNat).toNat = b.toNat := Utf8.toNat_ofNat (by omega)
    have hc : (Char.ofNat b.toNat).isDigit = true :=
      Char.isDigit_iff_toNat.2 (by rw [htoNat]; exact hrange)
    refine ⟨Char.ofNat b.toNat :: ds, List.forall_mem_cons.2 ⟨hc, hds⟩, ?_⟩
    rw [encodeChars_digit_cons hc, htoNat, Utf8.byte_eq rfl]

theorem exists_run (bs : Bytes) :
    ∃ ds : List Char, (∀ c ∈ ds, c.isDigit = true) ∧ bs.takeWhile isDigit = encodeChars ds ∧
      bs = encodeChars ds ++ bs.dropWhile isDigit := by
  obtain ⟨ds, hds, htake⟩ := exists_digits fun b hb => List.mem_takeWhile_imp hb
  refine ⟨ds, hds, htake, ?_⟩
  rw [← htake, List.takeWhile_append_dropWhile]

theorem exists_leading (h : integerDigits bs = .ok (s, t)) :
    ∃ ds, Leading ds ∧ s = encodeChars ds ∧ bs = s ++ t := by
  unfold integerDigits at h
  split at h
  · cases h
  · rename_i b r
    split_ifs at h with hzero hdigit
    · -- No digit follows a zero.
      have hs : ([b], r) = (s, t) := by
        split at h
        · split_ifs at h
          exact Except.ok.inj h
        · exact Except.ok.inj h
      obtain ⟨rfl, rfl⟩ := Prod.mk.inj hs
      exact ⟨['0'], leading_zero, by rw [hzero]; rfl, rfl⟩
    · obtain ⟨rfl, rfl⟩ := Prod.mk.inj (Except.ok.inj h)
      obtain ⟨ds, hds, htake, hsplit⟩ := exists_run (b :: r)
      refine ⟨ds, ?_, htake, htake ▸ hsplit⟩
      have hcons : (b :: r).takeWhile isDigit = b :: r.takeWhile isDigit := by
        rw [List.takeWhile_cons, if_pos hdigit]
      rw [hcons] at htake
      cases ds with
      | nil => cases htake
      | cons c cs =>
        refine leading_cons hds ?_
        rintro rfl
        exact hzero (List.cons.inj htake).1

theorem exists_fraction (h : fraction bs = .ok (s, t)) :
    ∃ fs, (∀ c ∈ fs, c.isDigit = true) ∧ fs ≠ [] ∧ s = encodeChars fs ∧ bs = s ++ t := by
  unfold fraction at h
  dsimp only at h
  split_ifs at h with hnil
  obtain ⟨rfl, rfl⟩ := Prod.mk.inj (Except.ok.inj h)
  obtain ⟨fs, hfs, htake, hsplit⟩ := exists_run bs
  refine ⟨fs, hfs, ?_, htake, htake ▸ hsplit⟩
  rintro rfl
  rw [htake] at hnil
  exact hnil rfl

theorem foldl_le_of_overflowRest? {limit : Nat} (ds : Bytes) {n : Nat} (hn : n ≤ limit)
    (h : overflowRest? limit n ds = none) :
    ds.foldl (fun n d => n * 10 + (d.toNat - 0x30)) n ≤ limit := by
  induction ds generalizing n with
  | nil => exact hn
  | cons d ds ih =>
    unfold overflowRest? at h
    dsimp only at h
    split_ifs at h with hlt
    exact ih (Nat.not_lt.1 hlt) h

theorem isDigit_head {c : Char} {cs : List Char} (hds : ∀ d ∈ c :: cs, d.isDigit = true) :
    ∃ b u, encodeChars (c :: cs) = b :: u ∧ isDigit b = true ∧ b ≠ 0x2D ∧ b ≠ 0x2B := by
  have hc := hds c List.mem_cons_self
  have hbyte := isDigit_byte hc
  refine ⟨_, _, encodeChars_digit_cons hc cs, hbyte, ?_, ?_⟩
  · intro h
    rw [h] at hbyte
    cases hbyte
  · intro h
    rw [h] at hbyte
    cases hbyte

theorem overflowRest?_of_lt (hds : ∀ c ∈ ds, c.isDigit = true)
    (h : Nat.ofDigitChars 10 ds 0 < 2 ^ 31) :
    overflowRest? (Number.words31 - 1) 0 (encodeChars ds) = none := by
  have h31 : Number.words31 = 2 ^ 31 := rfl
  apply overflowRest?_eq_none
  rw [foldl_digits hds]
  omega

def exponentDigits (zero negative : Bool) (bs : Bytes) : Except Stop (Int × Bytes) :=
  match bs with
  | [] => .error (.behind .endInValue [])
  | b :: r =>
    if !isDigit b then .error (.behind .invalidNumber r)
    else
      let rest := bs.dropWhile isDigit
      let n : Int := digitsValue (bs.takeWhile isDigit)
      match overflowRest? (Number.words31 - 1) 0 (bs.takeWhile isDigit) with
      | some more =>
        if zero || negative then .ok (if negative then -n else n, rest)
        else .error ⟨.numberOutOfRange, more.length + rest.length⟩
      | none => .ok (if negative then -n else n, rest)

/-- A sign is read first. Without one, the digits must not begin with what is taken for one. -/
theorem exponent_sign (zero : Bool) {sign : Sign}
    (hr : sign = .none → ∀ b ∈ r.head?, b ≠ 0x2D ∧ b ≠ 0x2B) :
    exponent zero (encodeChars sign.chars ++ r) =
      exponentDigits zero (decide (sign = .minus)) r := by
  cases sign with
  | none =>
    cases r with
    | nil => rfl
    | cons b r =>
      obtain ⟨hminus, hplus⟩ := hr rfl b rfl
      simp only [exponent, encodeChars, Sign.chars, List.flatMap_nil, List.nil_append, hminus,
        hplus, if_false]
      rfl
  | plus => rfl
  | minus => rfl

theorem exists_sign (bs : Bytes) : ∃ (sign : Sign) (r : Bytes), bs = encodeChars sign.chars ++ r ∧
    (sign = .none → ∀ b ∈ r.head?, b ≠ 0x2D ∧ b ≠ 0x2B) := by
  cases bs with
  | nil => exact ⟨.none, [], rfl, fun _ b hb => nomatch hb⟩
  | cons b r =>
    by_cases hminus : b = 0x2D
    · exact ⟨.minus, r, by rw [hminus]; rfl, nofun⟩
    by_cases hplus : b = 0x2B
    · exact ⟨.plus, r, by rw [hplus]; rfl, nofun⟩
    refine ⟨.none, b :: r, rfl, fun _ c hc => ?_⟩
    obtain rfl := Option.some.inj hc
    exact ⟨hminus, hplus⟩

theorem exponent_chars (x : Exponent) (hr : EndsDigits r) {zero : Bool}
    (hx : zero = false → x.value < 2 ^ 31) :
    exponent zero (encodeChars (x.sign.chars ++ x.digits) ++ r) = .ok (x.value, r) := by
  obtain ⟨mark, sign, ds, hmark, hds, hne⟩ := x
  have hvalue := digitsValue_digits hds
  have htake := takeWhile_digits hds hr
  have hdrop := dropWhile_digits hds hr
  have hover : (zero || decide (sign = .minus)) = false →
      overflowRest? (Number.words31 - 1) 0 (encodeChars ds) = none := by
    intro hsmall
    obtain ⟨hzero, hsign⟩ := Bool.or_eq_false_iff.1 hsmall
    have hlt := hx hzero
    rw [Exponent.value, if_neg (of_decide_eq_false hsign)] at hlt
    exact overflowRest?_of_lt hds (by exact_mod_cast hlt)
  obtain ⟨c, cs, rfl⟩ := List.exists_cons_of_ne_nil hne
  obtain ⟨b, u, hcons, hdigit, hminus, hplus⟩ := isDigit_head hds
  have hhead : sign = .none →
      ∀ b ∈ (encodeChars (c :: cs) ++ r).head?, b ≠ 0x2D ∧ b ≠ 0x2B := by
    intro _ d hd
    rw [hcons] at hd
    obtain rfl := Option.some.inj hd
    exact ⟨hminus, hplus⟩
  rw [Utf8.encodeChars_append, List.append_assoc, exponent_sign zero hhead]
  rw [hcons] at htake hdrop hvalue hover ⊢
  rw [List.cons_append] at htake hdrop ⊢
  simp only [exponentDigits, hdigit, htake, hdrop, hvalue, Exponent.value, Bool.not_true,
    Bool.false_eq_true, if_false, decide_eq_true_eq]
  split
  · rename_i more hmore
    rw [if_pos]
    by_contra hsmall
    rw [hover (Bool.not_eq_true _ ▸ hsmall)] at hmore
    cases hmore
  · rfl

theorem isExponentMark_iff : isExponentMark b = true ↔ b = 0x65 ∨ b = 0x45 := by
  simp [isExponentMark]

theorem exists_mark (hb : isExponentMark b = true) :
    ∃ c : Char, (c = 'e' ∨ c = 'E') ∧ encodeChar c = [b] := by
  rcases isExponentMark_iff.1 hb with rfl | rfl
  · exact ⟨'e', .inl rfl, rfl⟩
  · exact ⟨'E', .inr rfl, rfl⟩

/-- Only below zero and for the number zero, an exponent may pass 31 bits. -/
theorem exponentDigits_eq_ok {zero negative : Bool} {e : Int}
    (h : exponentDigits zero negative r = .ok (e, t)) :
    r.takeWhile isDigit ≠ [] ∧ t = r.dropWhile isDigit ∧
      (e = if negative then -(digitsValue (r.takeWhile isDigit) : Int)
        else digitsValue (r.takeWhile isDigit)) ∧
      ((zero || negative) = false →
        overflowRest? (Number.words31 - 1) 0 (r.takeWhile isDigit) = none) := by
  cases r with
  | nil => cases h
  | cons c r =>
    unfold exponentDigits at h
    dsimp only at h
    by_cases hdigit : isDigit c = true
    · have hne : (c :: r).takeWhile isDigit ≠ [] := by
        rw [List.takeWhile_cons, if_pos hdigit]
        exact List.cons_ne_nil _ _
      rw [hdigit, Bool.not_true, if_neg Bool.false_ne_true] at h
      split at h
      · by_cases hany : (zero || negative) = true
        · rw [if_pos hany] at h
          obtain ⟨rfl, rfl⟩ := Prod.mk.inj (Except.ok.inj h)
          exact ⟨hne, rfl, rfl, fun hnone => absurd hany (hnone ▸ Bool.false_ne_true)⟩
        · rw [if_neg hany] at h
          cases h
      · obtain ⟨rfl, rfl⟩ := Prod.mk.inj (Except.ok.inj h)
        exact ⟨hne, rfl, rfl, fun _ => ‹_›⟩
    · rw [Bool.not_eq_true] at hdigit
      rw [hdigit, Bool.not_false, if_pos rfl] at h
      cases h

theorem exists_exponent {zero : Bool} {e : Int} (h : exponent zero bs = .ok (e, t))
    (hb : isExponentMark b = true) :
    ∃ x : Exponent, x.value = e ∧ (zero = false → e < 2 ^ 31) ∧
      b :: bs = encodeChars x.chars ++ t := by
  obtain ⟨sign, r, rfl, hr⟩ := exists_sign bs
  obtain ⟨mark, hmark, hbyte⟩ := exists_mark hb
  rw [exponent_sign zero hr] at h
  obtain ⟨hne, rfl, he, hover⟩ := exponentDigits_eq_ok h
  obtain ⟨ds, hds, htake, hsplit⟩ := exists_run r
  rw [htake] at hne he hover
  rw [digitsValue_digits hds] at he
  simp only [decide_eq_true_eq] at he
  refine ⟨⟨mark, sign, ds, hmark, hds, fun hnil => hne (congrArg encodeChars hnil)⟩, he.symm,
    fun hzero => ?_, ?_⟩
  · rw [he]
    split_ifs with hsign
    · omega
    · have hle := foldl_le_of_overflowRest? _ (Nat.zero_le _)
        (hover (Bool.or_eq_false_iff.2 ⟨hzero, decide_eq_false hsign⟩))
      have h31 : Number.words31 = 2 ^ 31 := rfl
      rw [foldl_digits hds] at hle
      omega
  · rw [Exponent.chars, Utf8.encodeChars_cons, Utf8.encodeChars_append, hbyte,
      List.singleton_append, List.cons_append, List.append_assoc, ← hsplit]

theorem real_eq_ok {d : Decimal} : real R negative d r = .ok (n, t) ↔
    ∃ y, R.round negative d = some y ∧ n = .real y ∧ t = r := by
  rw [real]
  cases R.round negative d with
  | none => simp
  | some y => simp [eq_comm]

namespace Numeral

variable {x : Numeral}

theorem denotes_real_iff (h : ¬ x.IsInteger) : x.Denotes R n ↔
    ((x.kept R).digits ≠ 0 → x.power < 2 ^ 31) ∧
      ∃ y, R.round x.negative (x.kept R) = some y ∧ n = .real y := by
  constructor
  · intro hn
    cases hn with
    | integer hint => exact absurd hint h
    | real _ hpower hy => exact ⟨hpower, _, hy, rfl⟩
  · rintro ⟨hpower, y, hy, rfl⟩
    exact .real h hpower hy

theorem power_none (h : x.exponent = none) : x.power = 0 := by
  rw [power, h]
  rfl

theorem power_some {y : Exponent} (h : x.exponent = some y) : x.power = y.value := by
  rw [power, h]
  rfl

theorem denotes_of_real (h : ¬ x.IsInteger) (he : x.exponent = none) :
    real R x.negative (R.keep (encodeChars x.whole) (encodeChars x.fraction)) r = .ok (n, t) ↔
      x.Denotes R n ∧ t = r := by
  have hkept : x.kept R = R.keep (encodeChars x.whole) (encodeChars x.fraction) := by
    simp [kept, power_none he]
  rw [denotes_real_iff h, real_eq_ok, hkept, power_none he]
  constructor
  · rintro ⟨y, hy, hn, ht⟩
    exact ⟨⟨fun _ => by decide, y, hy, hn⟩, ht⟩
  · rintro ⟨⟨-, y, hy, hn⟩, ht⟩
    exact ⟨y, hy, hn, ht⟩

end Numeral

/-- Digits alone are read as an integer if that has 64 bits, and else as a double. -/
theorem integer_eq_ok {x : Numeral} (hf : x.fraction = []) (he : x.exponent = none) :
    integer R x.negative (encodeChars x.whole) r = .ok (n, t) ↔ x.Denotes R n ∧ t = r := by
  have h63 : Number.words63 = 2 ^ 63 := rfl
  have h64 : Number.words64 = 2 ^ 64 := rfl
  have hvalue : digitsValue (encodeChars x.whole) = x.significand := by
    rw [digitsValue_digits x.leading.digits, Numeral.significand, hf, List.append_nil]
  have hinteger : integer R x.negative (encodeChars x.whole) r =
      if x.IsInteger then .ok (.integer (if x.negative then -x.significand else x.significand), r)
      else real R x.negative (R.keep (encodeChars x.whole) (encodeChars x.fraction)) r := by
    simp only [integer, hvalue, Numeral.IsInteger, hf, he, true_and, h63, h64]
    cases x.negative <;> simp [encodeChars]
  rw [hinteger]
  by_cases hint : x.IsInteger
  · rw [if_pos hint, Except.ok.injEq, Prod.mk.injEq]
    constructor
    · rintro ⟨rfl, rfl⟩
      exact ⟨.integer hint, rfl⟩
    · rintro ⟨hn, rfl⟩
      cases hn with
      | integer => exact ⟨rfl, rfl⟩
      | real h => exact absurd hint h
  · rw [if_neg hint, Numeral.denotes_of_real hint he]

theorem scaled_chars (y : Exponent) (hr : EndsDigits r) {d : Decimal}
    (hy : d.digits ≠ 0 → y.value < 2 ^ 31) (negative : Bool) :
    scaled R negative d (encodeChars y.chars ++ r) =
      real R negative ⟨d.digits, d.exponent + y.value⟩ r := by
  have hmark : ∃ b, encodeChar y.mark = [b] ∧ isExponentMark b = true := by
    rcases y.mark_eq with h | h
    · exact ⟨0x65, by rw [h]; rfl, rfl⟩
    · exact ⟨0x45, by rw [h]; rfl, rfl⟩
  obtain ⟨b, hb, hbmark⟩ := hmark
  have hexponent : exponent (d.digits == 0) (encodeChars (y.sign.chars ++ y.digits) ++ r) =
      .ok (y.value, r) := exponent_chars y hr fun h => hy (by simpa using h)
  rw [Exponent.chars, Utf8.encodeChars_cons, hb, List.singleton_append, List.cons_append, scaled,
    if_pos hbmark, hexponent]
  rfl

theorem exists_scaled_mark {d : Decimal} (hb : isExponentMark b = true)
    (h : scaled R negative d (b :: bs) = .ok (n, t)) :
    ∃ y : Exponent, (d.digits ≠ 0 → y.value < 2 ^ 31) ∧ b :: bs = encodeChars y.chars ++ t ∧
      real R negative ⟨d.digits, d.exponent + y.value⟩ t = .ok (n, t) := by
  rw [scaled, if_pos hb] at h
  obtain ⟨⟨e, rest⟩, he, hreal⟩ := bind_eq_ok.1 h
  obtain ⟨y, rfl, hlt, hbs⟩ := exists_exponent he hb
  obtain ⟨-, -, -, rfl⟩ := real_eq_ok.1 hreal
  exact ⟨y, fun hne => hlt (by simpa using hne), hbs, hreal⟩

theorem endsDigits_chars (y : Exponent) (r : Bytes) : EndsDigits (encodeChars y.chars ++ r) := by
  rw [Exponent.chars, Utf8.encodeChars_cons]
  rcases y.mark_eq with h | h
  · rw [h]
    exact endsDigits_cons (b := 0x65) rfl _
  · rw [h]
    exact endsDigits_cons (b := 0x45) rfl _

theorem number_mark (hds : Leading ds) (y : Exponent) (r : Bytes) (negative : Bool) :
    number R negative (encodeChars ds ++ (encodeChars y.chars ++ r)) =
      scaled R negative (R.keep (encodeChars ds) []) (encodeChars y.chars ++ r) := by
  simp only [number, integerDigits_leading hds (endsDigits_chars y r), bind, Except.bind]
  rw [Exponent.chars, Utf8.encodeChars_cons]
  rcases y.mark_eq with h | h
  · rw [h]
    rfl
  · rw [h]
    rfl

theorem number_chars {x : Numeral} (hx : x.Denotes R n) (hr : EndsNumber r) :
    number R x.negative (encodeChars x.unsigned ++ r) = .ok (n, r) := by
  have hdigits := hr.endsDigits
  -- Whether there is an exponent and a fraction decides which reader takes over.
  cases he : x.exponent with
  | none =>
    by_cases hf : x.fraction = []
    · have hchars : x.unsigned = x.whole := by simp [Numeral.unsigned, hf, he]
      rw [hchars, number_digits x.leading hr]
      exact (integer_eq_ok hf he).2 ⟨hx, rfl⟩
    · have hchars : x.unsigned = x.whole ++ '.' :: x.fraction := by
        simp [Numeral.unsigned, hf, he]
      rw [hchars, number_fraction x.leading x.isDigit hf hdigits, scaled_end hr]
      exact (Numeral.denotes_of_real (fun h => hf h.1) he).2 ⟨hx, rfl⟩
  | some y =>
    have hint : ¬ x.IsInteger := fun h => Option.some_ne_none y (he.symm.trans h.2.1)
    obtain ⟨hpower, z, hz, rfl⟩ := (Numeral.denotes_real_iff hint).1 hx
    rw [Numeral.power_some he] at hpower
    have hreal : real R x.negative ⟨(x.kept R).digits, (x.kept R).exponent⟩ r = .ok (.real z, r) :=
      real_eq_ok.2 ⟨z, hz, rfl, rfl⟩
    simp only [Numeral.kept, Numeral.power_some he] at hreal hpower
    by_cases hf : x.fraction = []
    · have hchars : x.unsigned = x.whole ++ y.chars := by simp [Numeral.unsigned, hf, he]
      rw [hf] at hreal hpower
      rw [hchars, Utf8.encodeChars_append, List.append_assoc, number_mark x.leading y r]
      exact (scaled_chars y hdigits hpower x.negative).trans hreal
    · have hchars : x.unsigned = x.whole ++ '.' :: x.fraction ++ y.chars := by
        simp [Numeral.unsigned, hf, he]
      rw [hchars, Utf8.encodeChars_append, List.append_assoc,
        number_fraction x.leading x.isDigit hf (endsDigits_chars y r),
        scaled_chars y hdigits hpower]
      exact hreal

theorem exists_scaled {d : Decimal} (h : scaled R negative d bs = .ok (n, t)) :
    ∃ y : Option Exponent, (d.digits ≠ 0 → (y.map Exponent.value).getD 0 < 2 ^ 31) ∧
      bs = encodeChars ((y.map Exponent.chars).getD []) ++ t ∧
      real R negative ⟨d.digits, d.exponent + (y.map Exponent.value).getD 0⟩ t = .ok (n, t) := by
  by_cases hmark : ∃ b r, bs = b :: r ∧ isExponentMark b = true
  · obtain ⟨b, r, rfl, hb⟩ := hmark
    obtain ⟨y, hlt, hbs, hreal⟩ := exists_scaled_mark hb h
    exact ⟨some y, hlt, hbs, hreal⟩
  · have hreal : real R negative d bs = .ok (n, t) := by
      cases bs with
      | nil => exact h
      | cons b r =>
        rw [scaled, if_neg fun hb => hmark ⟨b, r, rfl, hb⟩] at h
        exact h
    obtain ⟨-, -, -, rfl⟩ := real_eq_ok.1 hreal
    exact ⟨none, fun _ => by decide, rfl, by simpa using hreal⟩

theorem denotes_of_kept {x : Numeral} (hx : x.fraction ≠ [] ∨ x.exponent ≠ none)
    (hpower : (x.kept R).digits ≠ 0 → x.power < 2 ^ 31)
    (h : real R x.negative (x.kept R) r = .ok (n, t)) : x.Denotes R n := by
  obtain ⟨y, hy, hn, -⟩ := real_eq_ok.1 h
  have hint : ¬ x.IsInteger := fun h => hx.elim (fun hf => hf h.1) fun he => he h.2.1
  exact (Numeral.denotes_real_iff hint).2 ⟨hpower, y, hy, hn⟩

/-- What is read as a number is a numeral of it. -/
theorem exists_numeral (h : number R negative bs = .ok (n, t)) :
    ∃ x : Numeral, x.negative = negative ∧ x.Denotes R n ∧ bs = encodeChars x.unsigned ++ t := by
  obtain ⟨⟨s, rest⟩, hs, hrest⟩ := bind_eq_ok.1 h
  clear h
  obtain ⟨ds, hds, rfl, rfl⟩ := exists_leading hs
  have hinteger : integer R negative (encodeChars ds) rest = .ok (n, t) →
      ∃ x : Numeral, x.negative = negative ∧ x.Denotes R n ∧
        encodeChars ds ++ rest = encodeChars x.unsigned ++ t := by
    intro h
    let x : Numeral := ⟨negative, ds, [], none, hds, List.forall_mem_nil _⟩
    obtain ⟨hx, ht⟩ := (integer_eq_ok (x := x) rfl rfl).1 h
    refine ⟨x, rfl, hx, ?_⟩
    simp [x, Numeral.unsigned, ht]
  cases rest with
  | nil => exact hinteger hrest
  | cons b r =>
    -- A point, the mark of an exponent, or what ends the number.
    dsimp only at hrest
    split_ifs at hrest with hpoint hmark
    · obtain ⟨⟨f, rest⟩, hf, hscaled⟩ := bind_eq_ok.1 hrest
      obtain ⟨fs, hfs, hne, rfl, rfl⟩ := exists_fraction hf
      obtain ⟨y, hlt, rfl, hreal⟩ := exists_scaled hscaled
      let x : Numeral := ⟨negative, ds, fs, y, hds, hfs⟩
      refine ⟨x, rfl, denotes_of_kept (x := x) (.inl hne) hlt hreal, ?_⟩
      have hbyte : encodeChar '.' = [0x2E] := rfl
      simp [x, Numeral.unsigned, hne, hpoint, hbyte, Utf8.encodeChars_append, Utf8.encodeChars_cons]
    · obtain ⟨y, hlt, hbs, hreal⟩ := exists_scaled_mark hmark hrest
      let x : Numeral := ⟨negative, ds, [], some y, hds, List.forall_mem_nil _⟩
      refine ⟨x, rfl, denotes_of_kept (x := x) (.inr (Option.some_ne_none y)) hlt hreal, ?_⟩
      simp [x, Numeral.unsigned, hbs, Utf8.encodeChars_append]
    · exact hinteger hrest

theorem exists_numeral_chars (h : number R negative bs = .ok (n, r)) :
    ∃ x : Numeral, x.Denotes R n ∧
      encodeChars (if negative then ['-'] else []) ++ bs = encodeChars x.chars ++ r := by
  obtain ⟨x, rfl, hx, rfl⟩ := exists_numeral h
  refine ⟨x, hx, ?_⟩
  rw [Numeral.chars, Utf8.encodeChars_append, List.append_assoc]

/-- What is written for a number is a numeral of it. -/
theorem exists_numeral_text (hn : n.Stored) :
    ∃ x : Numeral, x.Denotes .exact n ∧ encodeChars x.chars = encodeChars n.text := by
  obtain ⟨negative, cs, htext, hnumber⟩ := number_written hn endsNumber_nil
  obtain ⟨x, hx, hchars⟩ := exists_numeral_chars hnumber
  rw [List.append_nil, List.append_nil] at hchars
  refine ⟨x, hx, ?_⟩
  rw [htext, Utf8.encodeChars_append, hchars]

/-- What is read is an integer of 64 bits or a double. -/
theorem Numeral.Denotes.stored {x : Numeral} (h : x.Denotes .quick n) : n.Stored := by
  cases h with
  | integer h =>
    have hrange := h.2.2
    unfold Number.Stored
    split_ifs at hrange ⊢ <;> omega
  | real _ _ hy => exact Binary64.quick_canonical hy

end DumpWorkbench.Json
