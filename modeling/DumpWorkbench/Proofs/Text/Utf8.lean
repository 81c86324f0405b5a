import DumpWorkbench.Text.Utf8
import Mathlib.Tactic.SplitIfs

namespace DumpWorkbench.Utf8

theorem toNat_byte {n : Nat} (h : n < 256) : (UInt8.ofNat n).toNat = n :=
  UInt8.toNat_ofNat_of_lt' h

theorem toNat_tailByte (n : Nat) : (tailByte n).toNat = 0x80 + n % 64 :=
  toNat_byte (by omega)

theorem isTail_iff (b : UInt8) : isTail b = true ↔ 0x80 ≤ b.toNat ∧ b.toNat < 0xC0 := by
  simp [isTail, UInt8.le_iff_toNat_le, UInt8.lt_iff_toNat_lt]

theorem isTail_tailByte (n : Nat) : isTail (tailByte n) = true := by
  rw [isTail_iff, toNat_tailByte]
  omega

theorem isSecond_iff (a b : UInt8) : isSecond a b = true ↔
    (if a.toNat = 0xE0 then 0xA0 ≤ b.toNat ∧ b.toNat < 0xC0
    else if a.toNat = 0xED then 0x80 ≤ b.toNat ∧ b.toNat < 0xA0
    else if a.toNat = 0xF0 then 0x90 ≤ b.toNat ∧ b.toNat < 0xC0
    else if a.toNat = 0xF4 then 0x80 ≤ b.toNat ∧ b.toNat < 0x90
    else (0xC2 ≤ a.toNat ∧ a.toNat < 0xF5) ∧ 0x80 ≤ b.toNat ∧ b.toNat < 0xC0) := by
  unfold isSecond
  simp only [← UInt8.toNat_inj, UInt8.reduceToNat]
  split_ifs <;> simp [isTail, UInt8.le_iff_toNat_le, UInt8.lt_iff_toNat_lt]

theorem head_one {a : UInt8} (ha : a.toNat < 0x80) (r : Bytes) :
    head a r = (some (Char.ofNat a.toNat), 0) := by
  simp [head, UInt8.lt_iff_toNat_lt, ha]

theorem head_two {a b : UInt8} (ha : 0x80 ≤ a.toNat) (ha' : a.toNat < 0xE0)
    (hb : isSecond a b = true) (r : Bytes) :
    head a (b :: r) =
      (some (Char.ofNat ((a.toNat - 0xC0) * 64 + (b.toNat - 0x80))), 1) := by
  have h : ¬ a.toNat < 0x80 := by omega
  simp [head, UInt8.lt_iff_toNat_lt, h, ha', hb]

theorem head_three {a b c : UInt8} (ha : 0xE0 ≤ a.toNat) (ha' : a.toNat < 0xF0)
    (hb : isSecond a b = true) (hc : isTail c = true) (r : Bytes) :
    head a (b :: c :: r) = (some (Char.ofNat ((a.toNat - 0xE0) * 4096 + (b.toNat - 0x80) * 64
      + (c.toNat - 0x80))), 2) := by
  have h : ¬ a.toNat < 0x80 := by omega
  have h' : ¬ a.toNat < 0xE0 := by omega
  simp [head, UInt8.lt_iff_toNat_lt, h, h', ha', hb, hc]

theorem head_four {a b c d : UInt8} (ha : 0xF0 ≤ a.toNat) (hb : isSecond a b = true)
    (hc : isTail c = true) (hd : isTail d = true) (r : Bytes) :
    head a (b :: c :: d :: r) = (some (Char.ofNat ((a.toNat - 0xF0) * 262144
      + (b.toNat - 0x80) * 4096 + (c.toNat - 0x80) * 64 + (d.toNat - 0x80))), 3) := by
  have h : ¬ a.toNat < 0x80 := by omega
  have h' : ¬ a.toNat < 0xE0 := by omega
  have h'' : ¬ a.toNat < 0xF0 := by omega
  simp [head, UInt8.lt_iff_toNat_lt, h, h', h'', hb, hc, hd]

theorem head_written_two {n : Nat} (h : 0x80 ≤ n) (h' : n < 0x800) (r : Bytes) :
    head (UInt8.ofNat (0xC0 + n / 64)) (tailByte n :: r) = (some (Char.ofNat n), 1) := by
  have ha := toNat_byte (n := 0xC0 + n / 64) (by omega)
  have hb := toNat_tailByte n
  have hs : isSecond (UInt8.ofNat (0xC0 + n / 64)) (tailByte n) = true := by
    rw [isSecond_iff, ha, hb]
    split_ifs <;> omega
  have hn : (0xC0 + n / 64 - 0xC0) * 64 + (0x80 + n % 64 - 0x80) = n := by omega
  rw [head_two (by omega) (by omega) hs, ha, hb, hn]

/-- Behind `0xED` the second byte is bounded, which leaves out the surrogates and no character. -/
theorem head_written_three {n : Nat} (h : 0x800 ≤ n) (h' : n < 0x10000)
    (hn : n < 0xD800 ∨ 0xDFFF < n) (r : Bytes) :
    head (UInt8.ofNat (0xE0 + n / 4096)) (tailByte (n / 64) :: tailByte n :: r) =
      (some (Char.ofNat n), 2) := by
  have ha := toNat_byte (n := 0xE0 + n / 4096) (by omega)
  have hb := toNat_tailByte (n / 64)
  have hc := toNat_tailByte n
  have hs : isSecond (UInt8.ofNat (0xE0 + n / 4096)) (tailByte (n / 64)) = true := by
    rw [isSecond_iff, ha, hb]
    split_ifs <;> omega
  have hn : (0xE0 + n / 4096 - 0xE0) * 4096 + (0x80 + n / 64 % 64 - 0x80) * 64
      + (0x80 + n % 64 - 0x80) = n := by omega
  rw [head_three (by omega) (by omega) hs (isTail_tailByte _), ha, hb, hc, hn]

theorem head_written_four {n : Nat} (h : 0x10000 ≤ n) (h' : n < 0x110000) (r : Bytes) :
    head (UInt8.ofNat (0xF0 + n / 262144))
      (tailByte (n / 4096) :: tailByte (n / 64) :: tailByte n :: r) = (some (Char.ofNat n), 3) := by
  have ha := toNat_byte (n := 0xF0 + n / 262144) (by omega)
  have hb := toNat_tailByte (n / 4096)
  have hc := toNat_tailByte (n / 64)
  have hd := toNat_tailByte n
  have hs : isSecond (UInt8.ofNat (0xF0 + n / 262144)) (tailByte (n / 4096)) = true := by
    rw [isSecond_iff, ha, hb]
    split_ifs <;> omega
  have hn : (0xF0 + n / 262144 - 0xF0) * 262144 + (0x80 + n / 4096 % 64 - 0x80) * 4096
      + (0x80 + n / 64 % 64 - 0x80) * 64 + (0x80 + n % 64 - 0x80) = n := by omega
  rw [head_four (by omega) hs (isTail_tailByte _) (isTail_tailByte _), ha, hb, hc, hd, hn]

theorem head_encodeChar (c : Char) :
    ∃ a t, encodeChar c = a :: t ∧ ∀ r, head a (t ++ r) = (some c, t.length) := by
  have hc : c.toNat < 0xD800 ∨ 0xDFFF < c.toNat ∧ c.toNat < 0x110000 := c.valid
  have hofNat : Char.ofNat c.toNat = c := c.ofNat_toNat
  unfold encodeChar
  dsimp only
  split_ifs with h1 h2 h3
  · have ha := toNat_byte (n := c.toNat) (by omega)
    refine ⟨_, _, rfl, fun r => ?_⟩
    rw [List.nil_append, head_one (by omega), ha, hofNat]
    rfl
  · refine ⟨_, _, rfl, fun r => ?_⟩
    have h := head_written_two (Nat.not_lt.1 h1) h2 r
    rw [hofNat] at h
    exact h
  · refine ⟨_, _, rfl, fun r => ?_⟩
    have h := head_written_three (Nat.not_lt.1 h2) h3 (by omega) r
    rw [hofNat] at h
    exact h
  · refine ⟨_, _, rfl, fun r => ?_⟩
    have h := head_written_four (Nat.not_lt.1 h3) (by omega) r
    rw [hofNat] at h
    exact h

theorem encodeChar_ascii {c : Char} (h : c.toNat < 0x80) :
    encodeChar c = [UInt8.ofNat c.toNat] := by
  simp [encodeChar, h]

theorem le_of_mem_encodeChar {c : Char} (h : 0x80 ≤ c.toNat) {b : UInt8}
    (hb : b ∈ encodeChar c) : 0x80 ≤ b.toNat := by
  have hc : c.toNat < 0xD800 ∨ 0xDFFF < c.toNat ∧ c.toNat < 0x110000 := c.valid
  have ht (n : Nat) : 0x80 ≤ (tailByte n).toNat := by rw [toNat_tailByte]; omega
  unfold encodeChar at hb
  dsimp only at hb
  split_ifs at hb with h1 h2 h3
  · omega
  all_goals
    simp only [List.mem_cons, List.not_mem_nil, or_false] at hb
    rcases hb with rfl | hb
    · rw [toNat_byte (by omega)]
      omega
  · exact hb ▸ ht _
  · rcases hb with rfl | rfl <;> exact ht _
  · rcases hb with rfl | rfl | rfl <;> exact ht _

theorem utf8EncodeChar_eq (c : Char) : String.utf8EncodeChar c = encodeChar c := by
  have hc : c.toNat < 0xD800 ∨ 0xDFFF < c.toNat ∧ c.toNat < 0x110000 := c.valid
  have htoNat : c.val.toNat = c.toNat := rfl
  have hbyte {m n : Nat} (h : m = n) : UInt8.ofNat m = UInt8.ofNat n := congrArg UInt8.ofNat h
  have h1 : c.toNat ≤ 127 ↔ c.toNat < 0x80 := by omega
  have h2 : c.toNat ≤ 2047 ↔ c.toNat < 0x800 := by omega
  have h3 : c.toNat ≤ 65535 ↔ c.toNat < 0x10000 := by omega
  unfold encodeChar String.utf8EncodeChar tailByte
  dsimp only
  rw [htoNat]
  simp only [h1, h2, h3]
  generalize c.toNat = n at hc
  split_ifs
  · rfl
  · rw [hbyte (show n / 64 % 32 + 192 = 0xC0 + n / 64 by omega), Nat.add_comm (n % 64)]
  · rw [hbyte (show n / 4096 % 16 + 224 = 0xE0 + n / 4096 by omega), Nat.add_comm (n % 64),
      Nat.add_comm (n / 64 % 64)]
  · rw [hbyte (show n / 262144 % 8 + 240 = 0xF0 + n / 262144 by omega), Nat.add_comm (n % 64),
      Nat.add_comm (n / 64 % 64), Nat.add_comm (n / 4096 % 64)]

theorem encodeChars_cons (c : Char) (cs : List Char) :
    encodeChars (c :: cs) = encodeChar c ++ encodeChars cs := rfl

theorem encodeChars_append (cs ds : List Char) :
    encodeChars (cs ++ ds) = encodeChars cs ++ encodeChars ds := by
  simp [encodeChars]

theorem units_encodeChar_append (c : Char) (r : Bytes) :
    units (encodeChar c ++ r) = some c :: units r := by
  obtain ⟨a, t, hat, hhead⟩ := head_encodeChar c
  rw [hat, List.cons_append, units, hhead]
  simp

theorem units_encodeChars (cs : List Char) : units (encodeChars cs) = cs.map some := by
  induction cs with
  | nil => exact units.eq_1
  | cons c cs ih => rw [encodeChars_cons, units_encodeChar_append, ih, List.map_cons]

theorem decodeChars?_encodeChars (cs : List Char) : decodeChars? (encodeChars cs) = some cs := by
  have h : cs.mapM (m := Option) (fun c => pure (id c)) = pure (cs.map id) := List.mapM_pure
  rw [decodeChars?, units_encodeChars, List.mapM_map]
  exact h.trans (congrArg some (List.map_id cs))

/-- A text is what its bytes are read as. -/
theorem decode?_encode (s : String) : decode? (encode s) = some s := by
  rw [decode?, encode, decodeChars?_encodeChars, Option.map_some, String.ofList_toList]

theorem isTail_of_isSecond {a b : UInt8} (h : isSecond a b = true) : isTail b = true := by
  rw [isSecond_iff] at h
  rw [isTail_iff]
  split_ifs at h <;> omega

theorem toNat_ofNat {n : Nat} (h : n < 0xD800 ∨ 0xDFFF < n ∧ n < 0x110000) :
    (Char.ofNat n).toNat = n := by
  have hvalid : n.isValidChar := h
  rw [Char.ofNat, dif_pos hvalid]
  rfl

theorem byte_eq {a : UInt8} {n : Nat} (h : n = a.toNat) : UInt8.ofNat n = a :=
  h ▸ UInt8.ofNat_toNat

theorem tailByte_eq {b : UInt8} {n : Nat} (h : 0x80 + n % 64 = b.toNat) : tailByte n = b :=
  byte_eq h

theorem encodeChar_two {a b : UInt8} (ha : 0x80 ≤ a.toNat) (ha' : a.toNat < 0xE0)
    (hb : isSecond a b = true) :
    encodeChar (Char.ofNat ((a.toNat - 0xC0) * 64 + (b.toNat - 0x80))) = [a, b] := by
  rw [isSecond_iff, if_neg (by omega), if_neg (by omega), if_neg (by omega),
    if_neg (by omega)] at hb
  unfold encodeChar
  dsimp only
  rw [toNat_ofNat (by omega), if_neg (by omega), if_pos (by omega), byte_eq (a := a) (by omega),
    tailByte_eq (b := b) (by omega)]

theorem encodeChar_three {a b c : UInt8} (ha : 0xE0 ≤ a.toNat) (ha' : a.toNat < 0xF0)
    (hb : isSecond a b = true) (hc : isTail c = true) :
    encodeChar (Char.ofNat ((a.toNat - 0xE0) * 4096 + (b.toNat - 0x80) * 64 + (c.toNat - 0x80))) =
      [a, b, c] := by
  rw [isSecond_iff] at hb
  rw [isTail_iff] at hc
  have hrange : 0x80 ≤ b.toNat ∧ b.toNat < 0xC0 ∧
      (a.toNat = 0xE0 → 0xA0 ≤ b.toNat) ∧ (a.toNat = 0xED → b.toNat < 0xA0) := by
    split_ifs at hb <;> omega
  unfold encodeChar
  dsimp only
  rw [toNat_ofNat (by omega), if_neg (by omega), if_neg (by omega), if_pos (by omega),
    byte_eq (a := a) (by omega), tailByte_eq (b := b) (by omega), tailByte_eq (b := c) (by omega)]

theorem encodeChar_four {a b c d : UInt8} (ha : 0xF0 ≤ a.toNat) (hb : isSecond a b = true)
    (hc : isTail c = true) (hd : isTail d = true) :
    encodeChar (Char.ofNat ((a.toNat - 0xF0) * 262144 + (b.toNat - 0x80) * 4096
      + (c.toNat - 0x80) * 64 + (d.toNat - 0x80))) = [a, b, c, d] := by
  rw [isSecond_iff] at hb
  rw [isTail_iff] at hc hd
  have hrange : a.toNat < 0xF5 ∧ 0x80 ≤ b.toNat ∧ b.toNat < 0xC0 ∧
      (a.toNat = 0xF0 → 0x90 ≤ b.toNat) ∧ (a.toNat = 0xF4 → b.toNat < 0x90) := by
    split_ifs at hb <;> omega
  unfold encodeChar
  dsimp only
  rw [toNat_ofNat (by omega), if_neg (by omega), if_neg (by omega), if_neg (by omega),
    byte_eq (a := a) (by omega), tailByte_eq (b := b) (by omega), tailByte_eq (b := c) (by omega),
    tailByte_eq (b := d) (by omega)]

/-- A character that is read has the bytes it is read from: those behind the first are
continuation bytes. -/
theorem encodeChar_of_head {a : UInt8} {r : Bytes} {ch : Char} {k : Nat}
    (h : head a r = (some ch, k)) :
    ∃ t u, r = t ++ u ∧ t.length = k ∧ encodeChar ch = a :: t ∧ ∀ b ∈ t, isTail b = true := by
  unfold head at h
  simp only [UInt8.lt_iff_toNat_lt, UInt8.reduceToNat] at h
  split_ifs at h with h1
  · obtain ⟨hch, rfl⟩ := Prod.mk.inj h
    obtain rfl := Option.some.inj hch
    have htoNat := toNat_ofNat (n := a.toNat) (by omega)
    refine ⟨[], r, rfl, rfl, ?_, List.forall_mem_nil _⟩
    rw [encodeChar_ascii (by omega), htoNat, byte_eq rfl]
  -- A first unit that is no character ends at the byte that cannot continue it.
  all_goals
    rcases r with _ | ⟨b, r⟩
    · cases (Prod.mk.inj h).1
    dsimp only at h
    split_ifs at h with h2
    · cases (Prod.mk.inj h).1
    rw [Bool.not_eq_true', Bool.not_eq_false] at h2
  · obtain ⟨hch, rfl⟩ := Prod.mk.inj h
    obtain rfl := Option.some.inj hch
    refine ⟨[b], r, rfl, rfl, encodeChar_two (by omega) (by omega) h2, ?_⟩
    simpa using isTail_of_isSecond h2
  all_goals
    rcases r with _ | ⟨c, r⟩
    · cases (Prod.mk.inj h).1
    dsimp only at h
    split_ifs at h with h3
    · cases (Prod.mk.inj h).1
    rw [Bool.not_eq_true', Bool.not_eq_false] at h3
  · obtain ⟨hch, rfl⟩ := Prod.mk.inj h
    obtain rfl := Option.some.inj hch
    refine ⟨[b, c], r, rfl, rfl, encodeChar_three (by omega) (by omega) h2 h3, ?_⟩
    simpa using ⟨isTail_of_isSecond h2, h3⟩
  · rcases r with _ | ⟨d, r⟩
    · cases (Prod.mk.inj h).1
    dsimp only at h
    split_ifs at h with h4
    · cases (Prod.mk.inj h).1
    rw [Bool.not_eq_true', Bool.not_eq_false] at h4
    obtain ⟨hch, rfl⟩ := Prod.mk.inj h
    obtain rfl := Option.some.inj hch
    refine ⟨[b, c, d], r, rfl, rfl, encodeChar_four (by omega) h2 h3 h4, ?_⟩
    simpa using ⟨isTail_of_isSecond h2, h3, h4⟩

theorem head_of_isTail {a : UInt8} (ha : isTail a = true) (r : Bytes) : (head a r).1 = none := by
  rw [isTail_iff] at ha
  have hsecond (b : UInt8) : isSecond a b = false := by
    rw [← Bool.not_eq_true, isSecond_iff]
    split_ifs <;> omega
  have hascii : ¬ a < 0x80 := by
    rw [UInt8.lt_iff_toNat_lt]
    exact Nat.not_lt.2 ha.1
  unfold head
  rw [if_neg hascii]
  cases r with
  | nil => rfl
  | cons b r => simp [hsecond]

theorem not_isTail_of_encodeChar {a : UInt8} {t : Bytes} {c : Char} (h : encodeChar c = a :: t) :
    isTail a = false := by
  obtain ⟨b, u, hbu, hhead⟩ := head_encodeChar c
  obtain ⟨rfl, rfl⟩ := List.cons.inj (hbu.symm.trans h)
  cases htail : isTail b with
  | false => rfl
  | true =>
    have hnone := head_of_isTail htail (u ++ [])
    rw [hhead] at hnone
    cases hnone

theorem decodeChars?_eq_some {a : UInt8} {r : Bytes} {cs : List Char}
    (h : decodeChars? (a :: r) = some cs) :
    ∃ c k ds, head a r = (some c, k) ∧ decodeChars? (r.drop k) = some ds ∧ cs = c :: ds := by
  rw [decodeChars?, units, List.mapM_cons] at h
  obtain ⟨c, hc, h⟩ := Option.bind_eq_some_iff.1 h
  obtain ⟨ds, hds, h⟩ := Option.bind_eq_some_iff.1 h
  exact ⟨c, _, ds, Prod.ext hc rfl, hds, (Option.some.inj h).symm⟩

theorem decodeChars?_encodeChar_append {c : Char} {r : Bytes} {cs : List Char}
    (h : decodeChars? (encodeChar c ++ r) = some cs) :
    ∃ ds, decodeChars? r = some ds ∧ cs = c :: ds := by
  rw [decodeChars?, units_encodeChar_append, List.mapM_cons] at h
  obtain ⟨d, hd, h⟩ := Option.bind_eq_some_iff.1 h
  obtain ⟨ds, hds, h⟩ := Option.bind_eq_some_iff.1 h
  obtain rfl := Option.some.inj hd
  exact ⟨ds, hds, (Option.some.inj h).symm⟩

theorem encodeChars_of_decodeChars? {bs : Bytes} {cs : List Char} (h : decodeChars? bs = some cs) :
    encodeChars cs = bs := by
  -- A character takes several bytes at once.
  induction hlen : bs.length using Nat.strongRecOn generalizing bs cs with
  | _ n ih =>
    cases bs with
    | nil =>
      rw [decodeChars?, units] at h
      obtain rfl : [] = cs := Option.some.inj h
      rfl
    | cons a r =>
      obtain ⟨c, k, ds, hhead, hds, rfl⟩ := decodeChars?_eq_some h
      obtain ⟨t, u, rfl, rfl, hbytes, -⟩ := encodeChar_of_head hhead
      rw [List.drop_left] at hds
      rw [encodeChars_cons, hbytes, ih u.length (by simp at hlen; omega) hds rfl]
      rfl

theorem encode_of_decode? {bs : Bytes} {s : String} (h : decode? bs = some s) : encode s = bs := by
  obtain ⟨cs, hcs, rfl⟩ := Option.map_eq_some_iff.1 h
  rw [encode, String.toList_ofList, encodeChars_of_decodeChars? hcs]

end DumpWorkbench.Utf8
