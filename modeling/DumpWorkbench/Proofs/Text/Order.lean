import DumpWorkbench.Proofs.Text.Utf8
import Mathlib.Data.String.Basic

namespace DumpWorkbench.Utf8

variable {k n m lead : Nat} {c d : Char} {cs ds : List Char}

def tails : Nat → Nat → Bytes
  | 0, _ => []
  | k + 1, n => tailByte (n / 64 ^ k) :: tails k n

theorem tails_lt (hlt : n < m) (htop : n / 64 ^ k = m / 64 ^ k) (x y : Bytes) :
    tails k n ++ x < tails k m ++ y := by
  induction k with
  | zero =>
    rw [pow_zero, Nat.div_one, Nat.div_one] at htop
    omega
  | succ k ih =>
    have hle : n / 64 ^ k ≤ m / 64 ^ k := Nat.div_le_div_right hlt.le
    rw [tails, tails, List.cons_append, List.cons_append, List.cons_lt_cons_iff]
    by_cases heq : n / 64 ^ k = m / 64 ^ k
    · exact .inr ⟨by rw [heq], ih heq⟩
    · left
      rw [pow_succ, ← Nat.div_div_eq_div_mul, ← Nat.div_div_eq_div_mul] at htop
      rw [UInt8.lt_iff_toNat_lt, toNat_tailByte, toNat_tailByte]
      omega

theorem lead_tails_lt (k lead : Nat) (hlt : n < m) (hm : lead + m / 64 ^ k < 256) (x y : Bytes) :
    UInt8.ofNat (lead + n / 64 ^ k) :: tails k n ++ x <
      UInt8.ofNat (lead + m / 64 ^ k) :: tails k m ++ y := by
  have hle : n / 64 ^ k ≤ m / 64 ^ k := Nat.div_le_div_right hlt.le
  rw [List.cons_append, List.cons_append, List.cons_lt_cons_iff]
  by_cases heq : n / 64 ^ k = m / 64 ^ k
  · exact .inr ⟨by rw [heq], tails_lt hlt heq x y⟩
  · left
    rw [UInt8.lt_iff_toNat_lt, toNat_byte (by omega), toNat_byte hm]
    omega

theorem cons_lt_of_toNat {a b : Nat} (hlt : a < b) (hb : b < 256) (x y : Bytes) :
    UInt8.ofNat a :: x < UInt8.ofNat b :: y := by
  rw [List.cons_lt_cons_iff, UInt8.lt_iff_toNat_lt, toNat_byte (by omega), toNat_byte hb]
  exact .inl hlt

theorem encodeChar_lt (h : c < d) (x y : Bytes) : encodeChar c ++ x < encodeChar d ++ y := by
  have hlt : c.toNat < d.toNat := h
  have hd : d.toNat < 0xD800 ∨ 0xDFFF < d.toNat ∧ d.toNat < 0x110000 := d.valid
  unfold encodeChar
  dsimp only
  -- Characters of the same width differ behind the kind of their first byte, others in it.
  split_ifs
  · exact cons_lt_of_toNat hlt (by omega) _ _
  · exact cons_lt_of_toNat (by omega) (by omega) _ _
  · exact cons_lt_of_toNat (by omega) (by omega) _ _
  · exact cons_lt_of_toNat (by omega) (by omega) _ _
  · omega
  · have hbytes := lead_tails_lt 1 0xC0 hlt (by omega) x y
    simpa [tails] using hbytes
  · exact cons_lt_of_toNat (by omega) (by omega) _ _
  · exact cons_lt_of_toNat (by omega) (by omega) _ _
  · omega
  · omega
  · have hbytes := lead_tails_lt 2 0xE0 hlt (by omega) x y
    simpa [tails] using hbytes
  · exact cons_lt_of_toNat (by omega) (by omega) _ _
  · omega
  · omega
  · omega
  · have hbytes := lead_tails_lt 3 0xF0 hlt (by omega) x y
    simpa [tails] using hbytes

theorem encodeChars_lt (h : cs < ds) : encodeChars cs < encodeChars ds := by
  induction h with
  | nil =>
    rename_i d ds
    obtain ⟨a, t, hd, -⟩ := head_encodeChar d
    rw [encodeChars_cons, hd]
    exact List.nil_lt_cons a _
  | cons _ ih =>
    rw [encodeChars_cons, encodeChars_cons]
    exact List.append_left_lt ih
  | rel hlt =>
    rw [encodeChars_cons, encodeChars_cons]
    exact encodeChar_lt hlt _ _

/-- A text comes before another where its bytes do. -/
theorem encode_lt_iff {s t : String} : encode s < encode t ↔ s < t := by
  have hlt {s t : String} (h : s < t) : encode s < encode t :=
    encodeChars_lt (String.lt_iff_toList_lt.1 h)
  constructor
  · intro h
    by_contra hnot
    rcases lt_or_eq_of_le (not_lt.1 hnot) with hts | rfl
    · exact List.lt_irrefl _ (List.lt_trans h (hlt hts))
    · exact List.lt_irrefl _ h
  · exact hlt

end DumpWorkbench.Utf8
