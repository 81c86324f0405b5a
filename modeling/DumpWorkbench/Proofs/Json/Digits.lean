import DumpWorkbench.Json.Reader
import DumpWorkbench.Json.Writer
import DumpWorkbench.Proofs.Text.Cut
import DumpWorkbench.Proofs.Text.Utf8
import Mathlib.Tactic.SplitIfs

namespace DumpWorkbench.Json

open Utf8 (encodeChar encodeChars)

variable {ds fs : List Char} {r : Bytes} {R : Rounding}

def EndsDigits (r : Bytes) : Prop := ∀ b ∈ r.head?, isDigit b = false

def EndsNumber (r : Bytes) : Prop :=
  ∀ b ∈ r.head?, isDigit b = false ∧ b ≠ 0x2E ∧ isExponentMark b = false

theorem EndsNumber.endsDigits (hr : EndsNumber r) : EndsDigits r := fun b hb => (hr b hb).1

theorem endsDigits_cons {b : UInt8} (hb : isDigit b = false) (r : Bytes) :
    EndsDigits (b :: r) := by
  intro b' hb'
  obtain rfl : b = b' := Option.some.inj hb'
  exact hb

theorem endsNumber_nil : EndsNumber [] := by
  intro b hb
  cases hb

theorem endsNumber_cons {b : UInt8}
    (hb : isDigit b = false ∧ b ≠ 0x2E ∧ isExponentMark b = false) (r : Bytes) :
    EndsNumber (b :: r) := by
  intro b' hb'
  obtain rfl : b = b' := Option.some.inj hb'
  exact hb

theorem ne_of_class {α : Type} {p : α → Bool} {a b : α} (ha : p a = true) (hb : p b = false) :
    a ≠ b := by
  rintro rfl
  rw [ha] at hb
  cases hb

theorem encodeChar_digit {c : Char} (hc : c.isDigit = true) :
    encodeChar c = [UInt8.ofNat c.toNat] ∧ 48 ≤ c.toNat ∧ c.toNat ≤ 57 := by
  have h := Char.isDigit_iff_toNat.1 hc
  exact ⟨Utf8.encodeChar_ascii (Nat.lt_of_le_of_lt h.2 (by decide)), h⟩

theorem isDigit_byte {c : Char} (hc : c.isDigit = true) : isDigit (UInt8.ofNat c.toNat) = true := by
  obtain ⟨-, h⟩ := encodeChar_digit hc
  have hb := Utf8.toNat_byte (n := c.toNat) (by omega)
  simp [isDigit, UInt8.le_iff_toNat_le, hb, h]

theorem isDigit_of_mem (hds : ∀ c ∈ ds, c.isDigit = true) {b : UInt8} (hb : b ∈ encodeChars ds) :
    isDigit b = true := by
  obtain ⟨c, hc, hbc⟩ := List.mem_flatMap.1 hb
  rw [(encodeChar_digit (hds c hc)).1, List.mem_singleton] at hbc
  exact hbc ▸ isDigit_byte (hds c hc)

theorem encodeChars_digit_cons {c : Char} (hc : c.isDigit = true) (cs : List Char) :
    encodeChars (c :: cs) = UInt8.ofNat c.toNat :: encodeChars cs := by
  rw [Utf8.encodeChars_cons, (encodeChar_digit hc).1, List.singleton_append]

theorem length_encodeChars_digits (hds : ∀ c ∈ ds, c.isDigit = true) :
    (encodeChars ds).length = ds.length := by
  induction ds with
  | nil => rfl
  | cons c cs ih =>
    obtain ⟨hc, hcs⟩ := List.forall_mem_cons.1 hds
    rw [encodeChars_digit_cons hc, List.length_cons, List.length_cons, ih hcs]

theorem takeWhile_digits (hds : ∀ c ∈ ds, c.isDigit = true) (hr : EndsDigits r) :
    (encodeChars ds ++ r).takeWhile isDigit = encodeChars ds :=
  Text.takeWhile_append_of_head (fun _ hb => isDigit_of_mem hds hb) hr

theorem dropWhile_digits (hds : ∀ c ∈ ds, c.isDigit = true) (hr : EndsDigits r) :
    (encodeChars ds ++ r).dropWhile isDigit = r :=
  Text.dropWhile_append_of_head (fun _ hb => isDigit_of_mem hds hb) hr

theorem foldl_digits (hds : ∀ c ∈ ds, c.isDigit = true) (n : Nat) :
    (encodeChars ds).foldl (fun n d => n * 10 + (d.toNat - 0x30)) n = Nat.ofDigitChars 10 ds n := by
  induction ds generalizing n with
  | nil => rfl
  | cons c ds ih =>
    obtain ⟨hc, hds⟩ := List.forall_mem_cons.1 hds
    obtain ⟨-, hrange⟩ := encodeChar_digit hc
    rw [encodeChars_digit_cons hc, List.foldl_cons, ih hds, Nat.ofDigitChars_cons,
      Utf8.toNat_byte (by omega), Nat.mul_comm]
    rfl

theorem digitsValue_digits (hds : ∀ c ∈ ds, c.isDigit = true) :
    digitsValue (encodeChars ds) = Nat.ofDigitChars 10 ds 0 := foldl_digits hds 0

theorem le_foldl_digits (ds : Bytes) (n : Nat) :
    n ≤ ds.foldl (fun n d => n * 10 + (d.toNat - 0x30)) n := by
  induction ds generalizing n with
  | nil => exact Nat.le_refl n
  | cons d ds ih => exact Nat.le_trans (by omega) (ih (n * 10 + (d.toNat - 0x30)))

theorem overflowRest?_eq_none {limit : Nat} (ds : Bytes) (n : Nat)
    (h : ds.foldl (fun n d => n * 10 + (d.toNat - 0x30)) n ≤ limit) :
    overflowRest? limit n ds = none := by
  induction ds generalizing n with
  | nil => rfl
  | cons d ds ih =>
    have hle := le_foldl_digits ds (n * 10 + (d.toNat - 0x30))
    rw [List.foldl_cons] at h
    rw [overflowRest?, if_neg (by omega), ih _ h]

theorem isDigit_of_toDigits (n : Nat) : ∀ c ∈ Nat.toDigits 10 n, c.isDigit = true :=
  fun _ hc => Nat.isDigit_of_mem_toDigits (by decide) (by decide) hc

theorem digitChar_ne_zero : ∀ n < 10, 0 < n → n.digitChar ≠ '0' := by decide

theorem toDigits_head {n : Nat} (hn : 0 < n) :
    ∃ c cs, Nat.toDigits 10 n = c :: cs ∧ c ≠ '0' := by
  induction n using Nat.strongRecOn with
  | _ n ih =>
    rcases Nat.lt_or_ge n 10 with hlt | hge
    · exact ⟨n.digitChar, [], Nat.toDigits_of_lt_base hlt, digitChar_ne_zero n hlt hn⟩
    · obtain ⟨c, cs, hcs, hc⟩ := ih (n / 10) (by omega) (by omega)
      refine ⟨c, cs ++ [(n % 10).digitChar], ?_, hc⟩
      rw [Nat.toDigits_of_base_le (by decide) hge, hcs, List.cons_append]

/-- A run of digits that may stand before the point of a number. -/
structure Leading (ds : List Char) : Prop where
  digits : ∀ c ∈ ds, c.isDigit = true
  ne_nil : ds ≠ []
  zero : ds.head? = some '0' → ds = ['0']

theorem isDigit_of_mem_zero : ∀ c ∈ ['0'], c.isDigit = true := by
  intro c hc
  obtain rfl := List.mem_singleton.1 hc
  rfl

theorem leading_zero : Leading ['0'] :=
  ⟨isDigit_of_mem_zero, List.cons_ne_nil _ _, fun _ => rfl⟩

theorem leading_cons {c : Char} (hds : ∀ d ∈ c :: ds, d.isDigit = true) (hc : c ≠ '0') :
    Leading (c :: ds) :=
  ⟨hds, List.cons_ne_nil c ds, fun h => absurd (Option.some.inj h) hc⟩

theorem leading_append {n : Nat} (hn : 0 < n) (hfs : ∀ c ∈ fs, c.isDigit = true) :
    Leading (Nat.toDigits 10 n ++ fs) := by
  obtain ⟨c, cs, hcs, hc⟩ := toDigits_head hn
  have hdigits := isDigit_of_toDigits n
  rw [hcs] at hdigits ⊢
  refine leading_cons (fun d hd => ?_) hc
  exact (List.mem_append.1 hd).elim (hdigits d) (hfs d)

theorem leading_toDigits {n : Nat} (hn : 0 < n) : Leading (Nat.toDigits 10 n) := by
  simpa using leading_append hn (List.forall_mem_nil _)

theorem leading_take {n k : Nat} (hn : 0 < n) (hk : 0 < k) :
    Leading ((Nat.toDigits 10 n).take k) := by
  obtain ⟨c, cs, hcs, hc⟩ := toDigits_head hn
  obtain ⟨j, rfl⟩ := Nat.exists_eq_add_one_of_ne_zero (Nat.pos_iff_ne_zero.1 hk)
  have hdigits : ∀ d ∈ (Nat.toDigits 10 n).take (j + 1), d.isDigit = true :=
    fun d hd => isDigit_of_toDigits n d (List.mem_of_mem_take hd)
  rw [hcs] at hdigits ⊢
  exact leading_cons hdigits hc

theorem integerDigits_leading (hds : Leading ds) (hr : EndsDigits r) :
    integerDigits (encodeChars ds ++ r) = .ok (encodeChars ds, r) := by
  obtain ⟨hdigits, hne, hzero⟩ := hds
  obtain ⟨c, cs, rfl⟩ := List.exists_cons_of_ne_nil hne
  have hc := hdigits c List.mem_cons_self
  obtain ⟨-, hrange⟩ := encodeChar_digit hc
  by_cases h0 : c = '0'
  · subst h0
    obtain rfl : cs = [] := (List.cons.inj (hzero rfl)).2
    cases r with
    | nil => rfl
    | cons b r =>
      have hb : isDigit b = false := hr b rfl
      simp [integerDigits, encodeChars, encodeChar, hb]
  · have hcons : encodeChars (c :: cs) ++ r = UInt8.ofNat c.toNat :: (encodeChars cs ++ r) := by
      rw [encodeChars_digit_cons hc, List.cons_append]
    have h30 : UInt8.ofNat c.toNat ≠ 0x30 := by
      intro h
      have hn := congrArg UInt8.toNat h
      rw [Utf8.toNat_byte (by omega)] at hn
      exact h0 (Char.toNat_inj.1 hn)
    have htake := takeWhile_digits hdigits hr
    have hdrop := dropWhile_digits hdigits hr
    rw [hcons] at htake hdrop ⊢
    unfold integerDigits
    dsimp only
    rw [if_neg h30, if_pos (isDigit_byte hc), htake, hdrop]

theorem number_digits (hds : Leading ds) (hr : EndsNumber r) (negative : Bool) :
    number R negative (encodeChars ds ++ r) = integer R negative (encodeChars ds) r := by
  simp only [number, integerDigits_leading hds hr.endsDigits, bind, Except.bind]
  cases r with
  | nil => rfl
  | cons b r =>
    obtain ⟨-, hpoint, hmark⟩ := hr b rfl
    simp [hpoint, hmark]

theorem number_fraction (hds : Leading ds) (hfs : ∀ c ∈ fs, c.isDigit = true) (hne : fs ≠ [])
    (hr : EndsDigits r) (negative : Bool) :
    number R negative (encodeChars (ds ++ '.' :: fs) ++ r) =
      scaled R negative (R.keep (encodeChars ds) (encodeChars fs)) r := by
  have hsplit : encodeChars (ds ++ '.' :: fs) ++ r =
      encodeChars ds ++ 0x2E :: (encodeChars fs ++ r) := by
    rw [Utf8.encodeChars_append, Utf8.encodeChars_cons, List.append_assoc, List.append_assoc]
    rfl
  have hpoint := endsDigits_cons (show isDigit 0x2E = false from rfl) (encodeChars fs ++ r)
  have hlength := length_encodeChars_digits hfs
  have hbytes : encodeChars fs ≠ [] := by
    intro hnil
    rw [hnil] at hlength
    exact hne (List.length_eq_zero_iff.1 hlength.symm)
  have hfraction : fraction (encodeChars fs ++ r) = .ok (encodeChars fs, r) := by
    simp [fraction, takeWhile_digits hfs hr, dropWhile_digits hfs hr, hbytes]
  rw [hsplit]
  simp only [number, integerDigits_leading hds hpoint, bind, Except.bind, if_true, hfraction]

theorem scaled_end (hr : EndsNumber r) (negative : Bool) (d : Decimal) :
    scaled R negative d r = real R negative d r := by
  cases r with
  | nil => rfl
  | cons b r =>
    obtain ⟨-, -, hmark⟩ := hr b rfl
    simp [scaled, hmark]

def exponentSign (e : Int) : Char := if e < 0 then '-' else '+'

theorem exponent_written {e : Int} (he : e.natAbs < Number.words31) (hr : EndsDigits r)
    (zero : Bool) :
    exponent zero (encodeChars (exponentSign e :: Nat.toDigits 10 e.natAbs) ++ r) = .ok (e, r) := by
  generalize hn : e.natAbs = n at he
  have hdigits := isDigit_of_toDigits n
  have hvalue := digitsValue_digits hdigits
  rw [Nat.ofDigitChars_ten_toDigits] at hvalue
  have hover : overflowRest? (Number.words31 - 1) 0 (encodeChars (Nat.toDigits 10 n)) = none := by
    apply overflowRest?_eq_none
    rw [foldl_digits hdigits, Nat.ofDigitChars_ten_toDigits]
    omega
  have htake := takeWhile_digits hdigits hr
  have hdrop := dropWhile_digits hdigits hr
  obtain ⟨c, cs, hcs⟩ := List.exists_cons_of_ne_nil (Nat.toDigits_ne_nil : Nat.toDigits 10 n ≠ [])
  have hc : c.isDigit = true := hdigits c (hcs ▸ List.mem_cons_self)
  have hbyte := isDigit_byte hc
  have hcons : encodeChars (Nat.toDigits 10 n) ++ r =
      UInt8.ofNat c.toNat :: (encodeChars cs ++ r) := by
    rw [hcs, encodeChars_digit_cons hc, List.cons_append]
  rw [hcons] at htake hdrop
  rw [Utf8.encodeChars_cons, List.append_assoc, hcons, exponentSign]
  split_ifs with hneg
  · have hsign : encodeChar '-' ++ UInt8.ofNat c.toNat :: (encodeChars cs ++ r) =
        0x2D :: UInt8.ofNat c.toNat :: (encodeChars cs ++ r) := rfl
    rw [hsign]
    simp [exponent, hbyte, htake, hdrop, hover, hvalue]
    omega
  · have hsign : encodeChar '+' ++ UInt8.ofNat c.toNat :: (encodeChars cs ++ r) =
        0x2B :: UInt8.ofNat c.toNat :: (encodeChars cs ++ r) := rfl
    rw [hsign]
    simp [exponent, hbyte, htake, hdrop, hover, hvalue]
    omega

theorem endsDigits_exponent (e : Int) (r : Bytes) :
    EndsDigits (encodeChars ('e' :: exponentSign e :: Nat.toDigits 10 e.natAbs) ++ r) :=
  endsDigits_cons (b := 0x65) rfl _

theorem scaled_exponent {e : Int} (he : e.natAbs < Number.words31) (hr : EndsDigits r)
    (negative : Bool) (d : Decimal) :
    scaled R negative d (encodeChars ('e' :: exponentSign e :: Nat.toDigits 10 e.natAbs) ++ r) =
      real R negative ⟨d.digits, d.exponent + e⟩ r := by
  have hmark : encodeChars ('e' :: exponentSign e :: Nat.toDigits 10 e.natAbs) ++ r =
      0x65 :: (encodeChars (exponentSign e :: Nat.toDigits 10 e.natAbs) ++ r) := rfl
  rw [hmark]
  simp only [scaled, exponent_written he hr, bind, Except.bind]
  rfl

theorem number_exponent (hds : Leading ds) (negative : Bool) {e : Int} :
    number R negative (encodeChars (ds ++ 'e' :: exponentSign e :: Nat.toDigits 10 e.natAbs) ++ r) =
      scaled R negative (R.keep (encodeChars ds) [])
        (encodeChars ('e' :: exponentSign e :: Nat.toDigits 10 e.natAbs) ++ r) := by
  have hmark : encodeChars ('e' :: exponentSign e :: Nat.toDigits 10 e.natAbs) ++ r =
      0x65 :: (encodeChars (exponentSign e :: Nat.toDigits 10 e.natAbs) ++ r) := rfl
  have hends := endsDigits_exponent e r
  rw [Utf8.encodeChars_append, List.append_assoc]
  simp only [number, integerDigits_leading hds hends, bind, Except.bind]
  rw [hmark]
  rfl

end DumpWorkbench.Json
