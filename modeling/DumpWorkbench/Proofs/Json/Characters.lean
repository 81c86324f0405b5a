import DumpWorkbench.Proofs.Json.Grammar
import DumpWorkbench.Proofs.Json.String
import DumpWorkbench.Proofs.Outcome

namespace DumpWorkbench.Json

open Utf8 (encodeChar encodeChars decodeChars? isTail)

variable {bs r s t u : Bytes} {b : UInt8} {c : Char} {n m k : Nat}

theorem hexDigit?_eq_some_iff : hexDigit? b = some n ↔ HexDigit b n := by
  constructor
  · intro h
    unfold hexDigit? at h
    simp only [UInt8.le_iff_toNat_le, Bool.and_eq_true, decide_eq_true_eq, UInt8.reduceToNat] at h
    have hbyte (k : Nat) (hk : k = b.toNat) : UInt8.ofNat k = b := Utf8.byte_eq hk
    split_ifs at h with h₁ h₂ h₃
    · obtain rfl := Option.some.inj h
      have hd := HexDigit.digit (n := b.toNat - 0x30) (by omega)
      rwa [hbyte _ (by omega)] at hd
    · obtain rfl := Option.some.inj h
      have hd := HexDigit.upper (n := b.toNat - 0x41) (by omega)
      rwa [hbyte _ (by omega), show 10 + (b.toNat - 0x41) = b.toNat - 0x37 by omega] at hd
    · obtain rfl := Option.some.inj h
      have hd := HexDigit.lower (n := b.toNat - 0x61) (by omega)
      rwa [hbyte _ (by omega), show 10 + (b.toNat - 0x61) = b.toNat - 0x57 by omega] at hd
  · have hdigit : ∀ n < 10, hexDigit? (UInt8.ofNat (0x30 + n)) = some n := by decide
    have hupper : ∀ n < 6, hexDigit? (UInt8.ofNat (0x41 + n)) = some (10 + n) := by decide
    have hlower : ∀ n < 6, hexDigit? (UInt8.ofNat (0x61 + n)) = some (10 + n) := by decide
    rintro (h | h | h)
    · exact hdigit _ h
    · exact hupper _ h
    · exact hlower _ h

theorem hexUnit_ok (h : HexUnit s n) (r : Bytes) : hexUnit (s ++ r) = .ok n ∧ s.length = 4 := by
  obtain ⟨ha, hb, hc, hd⟩ := h
  rw [← hexDigit?_eq_some_iff] at ha hb hc hd
  refine ⟨?_, rfl⟩
  have hunit {i j k l : Nat} : i * 4096 + j * 256 + k * 16 + l =
      ((i * 16 + j) * 16 + k) * 16 + l := by omega
  simp [hexUnit, hexUnit?, ha, hb, hc, hd, hunit]

theorem exists_hexUnit (h : hexUnit bs = .ok n) : ∃ s r, HexUnit s n ∧ bs = s ++ r := by
  unfold hexUnit at h
  split_ifs at h with hlen
  split at h
  · rename_i v hv
    obtain rfl := Except.ok.inj h
    refine ⟨bs.take 4, bs.drop 4, ?_, (List.take_append_drop 4 bs).symm⟩
    unfold hexUnit? at hv
    split at hv
    · rename_i a b c d htake
      rw [htake]
      obtain ⟨i, hi, hv⟩ := Option.bind_eq_some_iff.1 hv
      obtain ⟨j, hj, hv⟩ := Option.bind_eq_some_iff.1 hv
      obtain ⟨k, hk, hv⟩ := Option.bind_eq_some_iff.1 hv
      obtain ⟨l, hl, hv⟩ := Option.bind_eq_some_iff.1 hv
      obtain rfl := Option.some.inj hv
      rw [hexDigit?_eq_some_iff] at hi hj hk hl
      have hunit : i * 4096 + j * 256 + k * 16 + l = ((i * 16 + j) * 16 + k) * 16 + l := by omega
      rw [hunit]
      exact .mk hi hj hk hl
    · cases hv
  · cases h

theorem exists_lowSurrogate (h : lowSurrogate bs = .ok m) :
    ∃ s r, HexUnit s m ∧ (0xDC00 ≤ m ∧ m < 0xE000) ∧ bs = 0x5C :: 0x75 :: s ++ r := by
  unfold lowSurrogate at h
  split at h
  · cases h
  · split_ifs at h with hb
    split at h
    · cases h
    · split_ifs at h with hu
      obtain ⟨k, hk, h⟩ := bind_eq_ok.1 h
      split_ifs at h with hlow
      obtain rfl := Except.ok.inj h
      obtain ⟨s, r, hs, rfl⟩ := exists_hexUnit hk
      refine ⟨s, r, hs, by simpa [isLowSurrogate] using hlow, ?_⟩
      rw [not_not.1 hb, not_not.1 hu]
      rfl

theorem exists_letter {a : UInt8} (h : letterEscape? b = some a) :
    ∃ c, (b, c) ∈ letters ∧ encodeChar c = [a] := by
  unfold letterEscape? at h
  simp only [Bool.or_eq_true, decide_eq_true_eq] at h
  split_ifs at h with h₁ h₂ h₃ h₄ h₅ h₆
  · obtain rfl := Option.some.inj h
    obtain (rfl | rfl) | rfl := h₁
    · exact ⟨'"', by decide, rfl⟩
    · exact ⟨'\\', by decide, rfl⟩
    · exact ⟨'/', by decide, rfl⟩
  all_goals obtain rfl := Option.some.inj h
  · exact ⟨'\x08', h₂ ▸ by decide, rfl⟩
  · exact ⟨'\x0C', h₃ ▸ by decide, rfl⟩
  · exact ⟨'\n', h₄ ▸ by decide, rfl⟩
  · exact ⟨'\r', h₅ ▸ by decide, rfl⟩
  · exact ⟨'\t', h₆ ▸ by decide, rfl⟩

theorem letterEscape?_of_letter :
    ∀ p ∈ letters, ∃ a, letterEscape? p.1 = some a ∧ encodeChar p.2 = [a] := by
  decide

theorem exists_unicodeEscape (h : unicodeEscape bs = .ok (c, n)) :
    ∃ u r, Spells c (0x5C :: 0x75 :: u) ∧ bs = u ++ r ∧ n = u.length := by
  obtain ⟨k, hk, h⟩ := bind_eq_ok.1 h
  obtain ⟨s, r, hs, rfl⟩ := exists_hexUnit hk
  obtain ⟨-, hlen⟩ := hexUnit_ok hs r
  split_ifs at h with hlow hhigh
  · obtain ⟨m, hm, hpair⟩ := bind_eq_ok.1 h
    rw [← hlen, List.drop_left] at hm
    obtain ⟨t, r, ht, hlow, rfl⟩ := exists_lowSurrogate hm
    obtain ⟨-, hlen'⟩ := hexUnit_ok ht r
    obtain ⟨rfl, rfl⟩ := Prod.mk.inj (Except.ok.inj hpair)
    have hhigh : 0xD800 ≤ k ∧ k < 0xDC00 := by simpa [isHighSurrogate] using hhigh
    refine ⟨s ++ 0x5C :: 0x75 :: t, r, .pair hs hhigh ht hlow, by simp, ?_⟩
    simp [hlen, hlen']
  · obtain ⟨rfl, rfl⟩ := Prod.mk.inj (Except.ok.inj h)
    refine ⟨s, r, .unit hs ?_, rfl, hlen.symm⟩
    simp only [isLowSurrogate, isHighSurrogate, Bool.and_eq_true, decide_eq_true_eq] at hlow hhigh
    omega

theorem exists_escape (h : escape bs = .ok (s, n)) :
    ∃ c u r, Spells c (0x5C :: u) ∧ s = encodeChar c ∧ bs = u ++ r ∧ n = u.length := by
  unfold escape at h
  split at h
  · cases h
  · rename_i b r
    split at h
    · rename_i a ha
      obtain ⟨rfl, rfl⟩ := Prod.mk.inj (Except.ok.inj h)
      obtain ⟨c, hc, hbytes⟩ := exists_letter ha
      exact ⟨c, [b], r, .letter hc, hbytes.symm, rfl, rfl⟩
    · split_ifs at h with hu
      obtain ⟨⟨c, k⟩, hc, h⟩ := bind_eq_ok.1 h
      obtain ⟨rfl, rfl⟩ := Prod.mk.inj (Except.ok.inj h)
      obtain ⟨u, r, hspells, rfl, rfl⟩ := exists_unicodeEscape hc
      exact ⟨c, b :: u, r, hu ▸ hspells, rfl, rfl, rfl⟩

theorem unicodeEscape_unit (h : HexUnit s n) (hn : n < 0xD800 ∨ 0xE000 ≤ n) (r : Bytes) :
    unicodeEscape (s ++ r) = .ok (Char.ofNat n, s.length) := by
  obtain ⟨hunit, hlen⟩ := hexUnit_ok h r
  have hlow : isLowSurrogate n = false := by simp [isLowSurrogate]; omega
  have hhigh : isHighSurrogate n = false := by simp [isHighSurrogate]; omega
  simp [unicodeEscape, hunit, hlen, hlow, hhigh, bind, Except.bind, pure, Except.pure]

theorem unicodeEscape_pair (h : HexUnit s n) (hn : 0xD800 ≤ n ∧ n < 0xDC00) (h' : HexUnit t m)
    (hm : 0xDC00 ≤ m ∧ m < 0xE000) (r : Bytes) :
    unicodeEscape (s ++ 0x5C :: 0x75 :: t ++ r) =
      .ok (Char.ofNat (0x10000 + (n - 0xD800) * 0x400 + (m - 0xDC00)),
        (s ++ 0x5C :: 0x75 :: t).length) := by
  obtain ⟨hunit, hlen⟩ := hexUnit_ok h (0x5C :: 0x75 :: (t ++ r))
  obtain ⟨hunit', hlen'⟩ := hexUnit_ok h' r
  have hlow : isLowSurrogate n = false := by simp [isLowSurrogate]; omega
  have hhigh : isHighSurrogate n = true := by simp [isHighSurrogate]; omega
  have hlow' : isLowSurrogate m = true := by simp [isLowSurrogate]; omega
  have hdrop : (s ++ 0x5C :: 0x75 :: (t ++ r)).drop 4 = 0x5C :: 0x75 :: (t ++ r) := by
    rw [← hlen, List.drop_left]
  simp [unicodeEscape, lowSurrogate, hunit, hunit', hlow, hlow', hhigh, hdrop, hlen, hlen', bind,
    Except.bind, pure, Except.pure]

theorem escape_unicode (h : unicodeEscape (u ++ r) = .ok (c, u.length)) :
    escape (0x75 :: u ++ r) = .ok (encodeChar c, (0x75 :: u).length) := by
  have hletter : letterEscape? 0x75 = none := rfl
  simp [escape, hletter, h, bind, Except.bind, pure, Except.pure]

theorem stringBytes_spells (h : Spells c u) (hr : stringBytes r = .ok (s, t)) :
    stringBytes (u ++ r) = .ok (encodeChar c ++ s, t) := by
  cases h with
  | plain hquote hslash hcontrol =>
    rw [Utf8.utf8EncodeChar_eq]
    exact stringBytes_character hquote hslash (Nat.not_lt.2 hcontrol) hr
  | @letter b c h =>
    obtain ⟨a, ha, hbytes⟩ := letterEscape?_of_letter _ h
    rw [hbytes]
    refine stringBytes_escape (u := [b]) ?_ hr
    simp [escape, ha]
  | unit hds hn => exact stringBytes_escape (escape_unicode (unicodeEscape_unit hds hn r)) hr
  | pair hds hn hes hm =>
    exact stringBytes_escape (escape_unicode (unicodeEscape_pair hds hn hes hm r)) hr

theorem stringBytes_eq_ok (h : stringBytes bs = .ok (s, t)) :
    (bs = 0x22 :: t ∧ s = []) ∨
    (∃ c u r s', Spells c (0x5C :: u) ∧ bs = 0x5C :: u ++ r ∧ s = encodeChar c ++ s' ∧
      stringBytes r = .ok (s', t)) ∨
    ∃ b r s', (b ≠ 0x22 ∧ b ≠ 0x5C ∧ ¬ b < 0x20) ∧ bs = b :: r ∧ s = b :: s' ∧
      stringBytes r = .ok (s', t) := by
  unfold stringBytes at h
  split at h
  · cases h
  · rename_i b r
    split_ifs at h with hq hb hc
    · obtain ⟨rfl, rfl⟩ := Prod.mk.inj (Except.ok.inj h)
      exact .inl ⟨by rw [hq], rfl⟩
    · split at h
      · cases h
      · rename_i a n ha
        split at h
        · cases h
        · rename_i s' t' hs'
          obtain ⟨rfl, rfl⟩ := Prod.mk.inj (Except.ok.inj h)
          obtain ⟨c, u, r, hspells, rfl, rfl, rfl⟩ := exists_escape ha
          rw [List.drop_left] at hs'
          exact .inr (.inl ⟨c, u, r, s', hspells, by rw [hb]; rfl, rfl, hs'⟩)
    · split at h
      · cases h
      · rename_i s' t' hs'
        obtain ⟨rfl, rfl⟩ := Prod.mk.inj (Except.ok.inj h)
        exact .inr (.inr ⟨b, r, s', ⟨hq, hb, hc⟩, rfl, rfl, hs'⟩)

theorem stringBytes_tail (hb : isTail b = true) (h : stringBytes bs = .ok (b :: s, t)) :
    ∃ r, bs = b :: r ∧ stringBytes r = .ok (s, t) := by
  obtain ⟨-, hnil⟩ | ⟨c, u, r, s', -, -, hs, -⟩ | ⟨b', r, s', -, rfl, hs, hr⟩ :=
    stringBytes_eq_ok h
  · cases hnil
  · obtain ⟨a, v, hc, -⟩ := Utf8.head_encodeChar c
    rw [hc] at hs
    obtain ⟨rfl, -⟩ := List.cons.inj hs
    rw [Utf8.not_isTail_of_encodeChar hc] at hb
    cases hb
  · obtain ⟨rfl, rfl⟩ := List.cons.inj hs
    exact ⟨r, rfl, hr⟩

theorem stringBytes_tails (hu : ∀ b ∈ u, isTail b = true) (h : stringBytes bs = .ok (u ++ s, t)) :
    ∃ r, bs = u ++ r ∧ stringBytes r = .ok (s, t) := by
  induction u generalizing bs with
  | nil => exact ⟨bs, rfl, h⟩
  | cons b u ih =>
    obtain ⟨hb, hu⟩ := List.forall_mem_cons.1 hu
    obtain ⟨v, rfl, hv⟩ := stringBytes_tail hb h
    obtain ⟨r, rfl, hr⟩ := ih hu hv
    exact ⟨r, rfl, hr⟩

theorem spells_of_encodeChar (hb : b ≠ 0x22 ∧ b ≠ 0x5C ∧ ¬ b < 0x20) (h : encodeChar c = b :: u) :
    Spells c (b :: u) := by
  obtain ⟨hq, hs, hc⟩ := hb
  rw [← h, ← Utf8.utf8EncodeChar_eq]
  refine .plain ?_ ?_ ?_
  · rintro rfl
    exact hq (List.cons.inj h).1.symm
  · rintro rfl
    exact hs (List.cons.inj h).1.symm
  · by_contra hlt
    rw [Utf8.encodeChar_ascii (by omega)] at h
    obtain ⟨rfl, -⟩ := List.cons.inj h
    rw [UInt8.lt_iff_toNat_lt, Utf8.toNat_byte (by omega)] at hc
    exact hc (Nat.not_le.1 hlt)

theorem exists_spells {cs : List Char} (h : stringBytes bs = .ok (s, t))
    (hs : decodeChars? s = some cs) :
    ∃ units : List Bytes, List.Forall₂ Spells cs units ∧ bs = units.flatten ++ 0x22 :: t := by
  -- An escape, and a character outside ASCII, take several bytes at once.
  induction hlen : bs.length using Nat.strongRecOn generalizing bs s cs with
  | _ n ih =>
    obtain ⟨rfl, rfl⟩ | ⟨c, u, r, s', hspells, rfl, rfl, hr⟩ | ⟨b, r, s', hb, rfl, rfl, hr⟩ :=
      stringBytes_eq_ok h
    · rw [decodeChars?, Utf8.units] at hs
      obtain rfl : [] = cs := Option.some.inj hs
      exact ⟨[], .nil, rfl⟩
    · obtain ⟨ds, hds, rfl⟩ := Utf8.decodeChars?_encodeChar_append hs
      obtain ⟨units, hunits, rfl⟩ := ih _ (by simp at hlen; omega) hr hds rfl
      exact ⟨_ :: units, .cons hspells hunits, by simp⟩
    · -- The character goes on for as long as its continuation bytes do.
      obtain ⟨c, k, ds, hc, hds, rfl⟩ := Utf8.decodeChars?_eq_some hs
      obtain ⟨u, v, rfl, rfl, hbytes, htails⟩ := Utf8.encodeChar_of_head hc
      rw [List.drop_left] at hds
      obtain ⟨w, rfl, hw⟩ := stringBytes_tails htails hr
      obtain ⟨units, hunits, rfl⟩ := ih _ (by simp at hlen; omega) hw hds rfl
      exact ⟨(b :: u) :: units, .cons (spells_of_encodeChar hb hbytes) hunits, by simp⟩

theorem string_quoted {text : String} (h : Quoted text bs) (r : Bytes) :
    ∃ body, bs = 0x22 :: body ∧ string (body ++ r) = .ok (text, r) := by
  obtain ⟨units, hunits, rfl⟩ := h
  refine ⟨units.flatten ++ [0x22], rfl, ?_⟩
  have hbytes : stringBytes (units.flatten ++ 0x22 :: r) = .ok (encodeChars text.toList, r) := by
    generalize text.toList = cs at hunits
    induction hunits with
    | nil => simp [encodeChars, stringBytes]
    | cons hspells _ ih =>
      rw [List.flatten_cons, List.append_assoc, Utf8.encodeChars_cons]
      exact stringBytes_spells hspells ih
  have hdecode : Utf8.decode? (encodeChars text.toList) = some text := Utf8.decode?_encode text
  rw [List.append_assoc, List.singleton_append]
  simp only [string, hbytes, hdecode, bind, Except.bind]
  rfl

theorem exists_quoted {text : String} (h : string bs = .ok (text, r)) :
    ∃ body, Quoted text (0x22 :: body) ∧ bs = body ++ r := by
  obtain ⟨⟨s, t⟩, hs, h⟩ := bind_eq_ok.1 h
  dsimp only at h
  split at h
  · rename_i text' hdecode
    obtain ⟨rfl, rfl⟩ := Prod.mk.inj (Except.ok.inj h)
    obtain ⟨cs, hcs, rfl⟩ := Option.map_eq_some_iff.1 hdecode
    obtain ⟨units, hunits, rfl⟩ := exists_spells hs hcs
    refine ⟨units.flatten ++ [0x22], ⟨units, ?_, rfl⟩, by simp⟩
    rw [String.toList_ofList]
    exact hunits
  · cases h

end DumpWorkbench.Json
