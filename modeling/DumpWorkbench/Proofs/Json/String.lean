import DumpWorkbench.Json.Reader
import DumpWorkbench.Json.Writer
import DumpWorkbench.Proofs.Text.Utf8

namespace DumpWorkbench.Json

open Utf8 (encodeChar encodeChars)

theorem encodeChar_hexDigit :
    ∀ n < 16, encodeChar (hexDigit n) = [UInt8.ofNat (hexDigit n).toNat] := by
  decide

theorem hexDigit?_hexDigit : ∀ n < 16, hexDigit? (UInt8.ofNat (hexDigit n).toNat) = some n := by
  decide

theorem hexUnit_of_digits {n m : Nat} (hn : n < 16) (hm : m < 16) (r : Bytes) :
    hexUnit (0x30 :: 0x30 :: UInt8.ofNat (hexDigit n).toNat ::
      UInt8.ofNat (hexDigit m).toNat :: r) = .ok (n * 16 + m) := by
  have h₀ : hexDigit? 0x30 = some 0 := rfl
  simp [hexUnit, hexUnit?, h₀, hexDigit?_hexDigit n hn, hexDigit?_hexDigit m hm]

theorem escape_control {n m : Nat} (hn : n < 2) (hm : m < 16) (r : Bytes) :
    escape (0x75 :: 0x30 :: 0x30 :: UInt8.ofNat (hexDigit n).toNat ::
      UInt8.ofNat (hexDigit m).toNat :: r) = .ok (encodeChar (Char.ofNat (n * 16 + m)), 5) := by
  have hu : letterEscape? 0x75 = none := rfl
  have hlow : isLowSurrogate (n * 16 + m) = false := by simp [isLowSurrogate]; omega
  have hhigh : isHighSurrogate (n * 16 + m) = false := by simp [isHighSurrogate]; omega
  simp [escape, hu, unicodeEscape, hexUnit_of_digits (Nat.lt_trans hn (by decide)) hm, hlow, hhigh,
    bind, Except.bind, pure, Except.pure]

theorem stringBytes_plain {b : UInt8} {r s t : Bytes} (hq : b ≠ 0x22) (hb : b ≠ 0x5C)
    (hc : ¬ b < 0x20) (h : stringBytes r = .ok (s, t)) :
    stringBytes (b :: r) = .ok (b :: s, t) := by
  rw [stringBytes, if_neg hq, if_neg hb, if_neg hc, h]

theorem stringBytes_append_plain {bs r s t : Bytes}
    (hbs : ∀ b ∈ bs, b ≠ 0x22 ∧ b ≠ 0x5C ∧ ¬ b < 0x20) (h : stringBytes r = .ok (s, t)) :
    stringBytes (bs ++ r) = .ok (bs ++ s, t) := by
  induction bs with
  | nil => exact h
  | cons b bs ih =>
    obtain ⟨hq, hb, hc⟩ := hbs b List.mem_cons_self
    exact stringBytes_plain hq hb hc (ih fun b' hb' => hbs b' (List.mem_cons_of_mem b hb'))

theorem stringBytes_escape {u r c s t : Bytes} (he : escape (u ++ r) = .ok (c, u.length))
    (h : stringBytes r = .ok (s, t)) : stringBytes (0x5C :: (u ++ r)) = .ok (c ++ s, t) := by
  rw [stringBytes, if_neg (by decide), if_pos rfl, he]
  dsimp only
  rw [List.drop_left, h]

theorem stringBytes_control {c : Char} (hc : c.toNat < 0x20) {r s t : Bytes}
    (h : stringBytes r = .ok (s, t)) :
    stringBytes (encodeChars ['\\', 'u', '0', '0', hexDigit (c.toNat / 16),
      hexDigit (c.toNat % 16)] ++ r) = .ok (encodeChar c ++ s, t) := by
  have hn : c.toNat / 16 < 2 := by omega
  have hm : c.toNat % 16 < 16 := Nat.mod_lt _ (by decide)
  have he := escape_control hn hm r
  rw [Nat.div_add_mod', Char.ofNat_toNat] at he
  have hbytes : encodeChars
      ['\\', 'u', '0', '0', hexDigit (c.toNat / 16), hexDigit (c.toNat % 16)] =
        0x5C :: [0x75, 0x30, 0x30, UInt8.ofNat (hexDigit (c.toNat / 16)).toNat,
          UInt8.ofNat (hexDigit (c.toNat % 16)).toNat] := by
    simp only [encodeChars, List.flatMap_cons, List.flatMap_nil,
      encodeChar_hexDigit _ (Nat.lt_trans hn (by decide)), encodeChar_hexDigit _ hm]
    rfl
  rw [hbytes]
  exact stringBytes_escape he h

theorem plain_of_mem_encodeChar {c : Char} (hq : c ≠ '"') (hb : c ≠ '\\')
    (hc : ¬ c.toNat < 0x20) : ∀ b ∈ encodeChar c, b ≠ 0x22 ∧ b ≠ 0x5C ∧ ¬ b < 0x20 := by
  intro b hmem
  simp only [ne_eq, ← UInt8.toNat_inj, UInt8.lt_iff_toNat_lt, UInt8.reduceToNat]
  rcases Nat.lt_or_ge c.toNat 0x80 with hlt | hge
  · have hquote : c.toNat ≠ 0x22 := fun heq => hq (Char.toNat_inj.1 heq)
    have hbackslash : c.toNat ≠ 0x5C := fun heq => hb (Char.toNat_inj.1 heq)
    rw [Utf8.encodeChar_ascii hlt, List.mem_singleton] at hmem
    rw [hmem, Utf8.toNat_byte (by omega)]
    omega
  · have hle := Utf8.le_of_mem_encodeChar hge hmem
    omega

theorem stringBytes_character {c : Char} (hq : c ≠ '"') (hb : c ≠ '\\') (hc : ¬ c.toNat < 0x20)
    {r s t : Bytes} (h : stringBytes r = .ok (s, t)) :
    stringBytes (encodeChar c ++ r) = .ok (encodeChar c ++ s, t) :=
  stringBytes_append_plain (plain_of_mem_encodeChar hq hb hc) h

theorem stringBytes_escapeChar (c : Char) {r s t : Bytes} (h : stringBytes r = .ok (s, t)) :
    stringBytes (encodeChars (escapeChar c) ++ r) = .ok (encodeChar c ++ s, t) := by
  unfold escapeChar
  split_ifs with h₁ h₂ h₃ h₄ h₅ h₆ h₇ h₈
  · subst h₁; exact stringBytes_escape (u := [0x22]) rfl h
  · subst h₂; exact stringBytes_escape (u := [0x5C]) rfl h
  · subst h₃; exact stringBytes_escape (u := [0x62]) rfl h
  · subst h₄; exact stringBytes_escape (u := [0x66]) rfl h
  · subst h₅; exact stringBytes_escape (u := [0x6E]) rfl h
  · subst h₆; exact stringBytes_escape (u := [0x72]) rfl h
  · subst h₇; exact stringBytes_escape (u := [0x74]) rfl h
  · exact stringBytes_control h₈ h
  · have hbytes : encodeChars [c] = encodeChar c := List.append_nil _
    rw [hbytes]
    exact stringBytes_character h₁ h₂ h₈ h

theorem stringBytes_escaped (cs : List Char) (r : Bytes) :
    stringBytes (encodeChars (cs.flatMap escapeChar) ++ 0x22 :: r) = .ok (encodeChars cs, r) := by
  induction cs with
  | nil => simp [encodeChars, stringBytes]
  | cons c cs ih =>
    rw [List.flatMap_cons, Utf8.encodeChars_append, List.append_assoc, Utf8.encodeChars_cons]
    exact stringBytes_escapeChar c ih

theorem string_escaped (s : String) (r : Bytes) :
    string (encodeChars (s.toList.flatMap escapeChar) ++ 0x22 :: r) = .ok (s, r) := by
  have hs := Utf8.decode?_encode s
  simp only [string, stringBytes_escaped, bind, Except.bind]
  rw [show encodeChars s.toList = Utf8.encode s from rfl, hs]
  rfl

theorem encodeChars_quote (s : String) :
    encodeChars (quote s) = 0x22 :: (encodeChars (s.toList.flatMap escapeChar) ++ [0x22]) := by
  rw [quote, List.cons_append, Utf8.encodeChars_cons, Utf8.encodeChars_append]
  rfl

end DumpWorkbench.Json
