import DumpWorkbench.Proofs.Json.Digits
import DumpWorkbench.Toml.Reader

namespace DumpWorkbench.Toml

open Json (Leading ne_of_class)

variable {c : Char} {ds r t : Chars} {depth low high n v : Nat}

theorem leading_digits (n : Nat) : Leading (Nat.toDigits 10 n) := by
  rcases Nat.eq_zero_or_pos n with rfl | hn
  · exact Json.leading_zero
  · exact Json.leading_toDigits hn

theorem skipDigits?_more {digit : Char → Bool} {d : Char} (hc : digit c = true)
    (hd : digit d = true) (hunderscore : d ≠ '_') (s : Chars) :
    skipDigits? digit (c :: d :: s) = skipDigits? digit (d :: s) := by
  rw [skipDigits?.eq_def]
  simp [hc, hd]

theorem skipDigits?_digits (hds : ∀ c ∈ ds, c.isDigit = true) (hne : ds ≠ []) (r : Chars) :
    skipDigits? isDigit (ds ++ '\n' :: r) = some ('\n' :: r) := by
  have hend : isDigit '\n' = false := rfl
  induction ds with
  | nil => exact absurd rfl hne
  | cons c ds ih =>
    obtain ⟨hc, hds⟩ := List.forall_mem_cons.1 hds
    have hdigit : isDigit c = true := hc
    cases ds with
    | nil => simp [skipDigits?, hdigit, hend]
    | cons d ds =>
      have hd : isDigit d = true := hds d List.mem_cons_self
      have hunderscore : d ≠ '_' := ne_of_class hd rfl
      rw [List.cons_append, List.cons_append, skipDigits?_more hdigit hd hunderscore]
      exact ih hds (List.cons_ne_nil d ds)

theorem exists_head (h : Leading ds) : ∃ c cs, ds = c :: cs ∧ c.isDigit = true ∧
    (c = '0' → cs = []) := by
  obtain ⟨c, cs, rfl⟩ := List.exists_cons_of_ne_nil h.ne_nil
  refine ⟨c, cs, rfl, h.digits c List.mem_cons_self, ?_⟩
  rintro rfl
  exact (List.cons.inj (h.zero rfl)).2

theorem skipInteger?_leading (h : Leading ds) (r : Chars) :
    skipInteger? (ds ++ '\n' :: r) = some ('\n' :: r) := by
  have hskip := skipDigits?_digits h.digits h.ne_nil r
  obtain ⟨c, cs, rfl, hc, hzero⟩ := exists_head h
  by_cases h0 : c = '0'
  · rw [hzero h0, h0]
    rfl
  · simp [skipInteger?, ne_of_class hc (b := '+') rfl, ne_of_class hc (b := '-') rfl, h0]
    exact hskip

/-- Behind digits of a point in time there are more digits, or the line ends. -/
theorem digits_behind (hds : ∀ c ∈ ds, c.isDigit = true)
    (h : digitsIn? n low high (ds ++ '\n' :: r) = some (v, t)) :
    ∃ es, (∀ c ∈ es, c.isDigit = true) ∧ t = es ++ '\n' :: r := by
  unfold digitsIn? at h
  dsimp only at h
  split_ifs at h with hin
  obtain ⟨-, rfl⟩ := Prod.mk.inj (Option.some.inj h)
  obtain ⟨hlength, hall, -⟩ := hin
  rcases Nat.lt_or_ge ds.length n with hlt | hn
  · -- The end of the line would be among the digits.
    have hmem : '\n' ∈ (ds ++ '\n' :: r).take n := by
      obtain ⟨k, hk⟩ := Nat.exists_eq_add_of_lt hlt
      have hrest : n - ds.length = k + 1 := by omega
      rw [List.take_append, hrest, List.take_succ_cons]
      simp
    cases List.all_eq_true.1 hall _ hmem
  · refine ⟨ds.drop n, fun c hc => hds c (List.mem_of_mem_drop hc), ?_⟩
    rw [List.drop_append_of_le_length hn]

theorem skipChar?_digits (hds : ∀ c ∈ ds, c.isDigit = true) (hc : c.isDigit = false)
    (hn : c ≠ '\n') (r : Chars) : skipChar? c (ds ++ '\n' :: r) = none := by
  cases ds with
  | nil => exact if_neg (Ne.symm hn)
  | cons d ds => exact if_neg (ne_of_class (hds d List.mem_cons_self) hc)

theorem skipDate?_digits (hds : ∀ c ∈ ds, c.isDigit = true) (r : Chars) :
    skipDate? (ds ++ '\n' :: r) = none := by
  unfold skipDate?
  cases hyear : digitsIn? 4 0 9999 (ds ++ '\n' :: r) with
  | none => rfl
  | some p =>
    obtain ⟨es, hes, ht⟩ := digits_behind hds hyear
    have hskip := skipChar?_digits (c := '-') hes rfl (by decide) r
    simp [ht, hskip]

theorem skipTime?_digits (hds : ∀ c ∈ ds, c.isDigit = true) (r : Chars) :
    skipTime? (ds ++ '\n' :: r) = none := by
  unfold skipTime?
  cases hhour : digitsIn? 2 0 23 (ds ++ '\n' :: r) with
  | none => rfl
  | some p =>
    obtain ⟨es, hes, ht⟩ := digits_behind hds hhour
    have hskip := skipChar?_digits (c := ':') hes rfl (by decide) r
    simp [ht, hskip]

theorem skipMoment?_digits (hds : ∀ c ∈ ds, c.isDigit = true) (r : Chars) :
    skipMoment? (ds ++ '\n' :: r) = none := by
  rw [skipMoment?, skipDate?_digits hds, skipTime?_digits hds]

theorem decimal?_leading (h : Leading ds) (r : Chars) : decimal? (ds ++ '\n' :: r) = none := by
  have hexponent : skipExponent? ('\n' :: r) = none := rfl
  simp [decimal?, skipDecimal?, skipInteger?_leading h, hexponent]

theorem skipSpecial?_leading (h : Leading ds) (r : Chars) :
    skipSpecial? (ds ++ '\n' :: r) = none := by
  obtain ⟨c, cs, rfl, hc, -⟩ := exists_head h
  simp [skipSpecial?, ne_of_class hc (b := '+') rfl, ne_of_class hc (b := '-') rfl,
    ne_of_class hc (b := 'i') rfl, ne_of_class hc (b := 'n') rfl]

theorem hexDigit?_digit (hc : c.isDigit = true) : hexDigit? c = some (c.toNat - 48) := by
  have hrange : 48 ≤ c.toNat ∧ c.toNat ≤ 57 := (Json.encodeChar_digit hc).2
  exact if_pos hrange

theorem foldl_digits (hds : ∀ c ∈ ds, c.isDigit = true) (n : Nat) :
    (ds.filterMap hexDigit?).foldl (fun n d => n * 10 + d) n = Nat.ofDigitChars 10 ds n := by
  induction ds generalizing n with
  | nil => rfl
  | cons c ds ih =>
    obtain ⟨hc, hds⟩ := List.forall_mem_cons.1 hds
    rw [List.filterMap_cons_some (hexDigit?_digit hc), List.foldl_cons, ih hds,
      Nat.ofDigitChars_cons, Nat.mul_comm]
    rfl

theorem integer?_leading (h : Leading ds) (hn : Nat.ofDigitChars 10 ds 0 < Number.words63)
    (r : Chars) : integer? (ds ++ '\n' :: r) =
      some ((Nat.ofDigitChars 10 ds 0 : Int), '\n' :: r) := by
  have hhead {a : Char} {u : Chars} (ha : a ≠ '\n') : ds ++ '\n' :: r ≠ '0' :: a :: u := by
    obtain ⟨c, cs, rfl, -, hzero⟩ := exists_head h
    intro heq
    obtain ⟨rfl, htail⟩ := List.cons.inj heq
    rw [hzero rfl] at htail
    exact ha (List.cons.inj htail).1.symm
  have htake : (ds ++ '\n' :: r).take ((ds ++ '\n' :: r).length - ('\n' :: r).length) = ds := by
    rw [List.length_append, Nat.add_sub_cancel, List.take_left]
  have hminus : ds.head? ≠ some '-' := by
    obtain ⟨c, cs, rfl, hc, -⟩ := exists_head h
    intro heq
    exact ne_of_class hc rfl (Option.some.inj heq)
  have hvalue : baseValue 10 ds = Nat.ofDigitChars 10 ds 0 := foldl_digits h.digits 0
  have hword : word (Nat.ofDigitChars 10 ds 0 : Int) = some (Nat.ofDigitChars 10 ds 0 : Int) := by
    apply if_pos
    omega
  unfold integer?
  split
  · rename_i heq
    exact absurd heq (hhead (by decide))
  · rename_i heq
    exact absurd heq (hhead (by decide))
  · rename_i heq
    exact absurd heq (hhead (by decide))
  · rw [skipInteger?_leading h]
    simp only [Option.bind_eq_bind, Option.bind_some, htake, hminus, hvalue, hword, if_false]
    rfl

theorem value_digits (depth : Nat) (hn : n < Number.words63) (r : Chars) :
    value depth (Nat.toDigits 10 n ++ '\n' :: r) = .ok (.integer n, '\n' :: r) := by
  have hdigits := leading_digits n
  have hinteger := integer?_leading hdigits (by rwa [Nat.ofDigitChars_ten_toDigits]) r
  rw [Nat.ofDigitChars_ten_toDigits] at hinteger
  have hnumeral : numeral (Nat.toDigits 10 n ++ '\n' :: r) = .ok (.integer n, '\n' :: r) := by
    rw [numeral, skipMoment?_digits hdigits.digits, decimal?_leading hdigits,
      skipSpecial?_leading hdigits, hinteger]
  obtain ⟨c, cs, hcs, hc, -⟩ := exists_head hdigits
  have htrue : ['t', 'r', 'u', 'e'].isPrefixOf (c :: (cs ++ '\n' :: r)) = false := by
    simp [List.isPrefixOf, Ne.symm (ne_of_class hc (b := 't') rfl)]
  have hfalse : ['f', 'a', 'l', 's', 'e'].isPrefixOf (c :: (cs ++ '\n' :: r)) = false := by
    simp [List.isPrefixOf, Ne.symm (ne_of_class hc (b := 'f') rfl)]
  rw [hcs, List.cons_append] at hnumeral ⊢
  unfold value
  simp [ne_of_class hc (b := '"') rfl, ne_of_class hc (b := '\'') rfl,
    ne_of_class hc (b := '[') rfl, ne_of_class hc (b := '\x7b') rfl, htrue, hfalse, hnumeral]

theorem isBlank_digits (n : Nat) : ∀ c ∈ (Nat.toDigits 10 n).head?, isBlank c = false := by
  obtain ⟨d, ds, hds, hd, -⟩ := exists_head (leading_digits n)
  intro c hc
  rw [hds] at hc
  obtain rfl := Option.some.inj hc
  simp [isBlank, ne_of_class hd (b := ' ') rfl, ne_of_class hd (b := '\t') rfl]

end DumpWorkbench.Toml
