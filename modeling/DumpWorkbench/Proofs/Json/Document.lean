import DumpWorkbench.Proofs.Json.Listed
import DumpWorkbench.Proofs.Json.Numeral
import Mathlib.Data.List.DropRight

namespace DumpWorkbench.Json

open Utf8 (encodeChars)

variable {bs r s t : Bytes} {v w : Value} {n : Nat} {R : Rounding}

theorem word_eq_ok {ws : Bytes} : word w ws bs = .ok (v, r) ↔ v = w ∧ bs = ws ++ r := by
  induction ws generalizing bs with
  | nil => simp [word, eq_comm]
  | cons b ws ih =>
    cases bs with
    | nil => simp [word]
    | cons c bs =>
      by_cases hc : c = b
      · simp [word, hc, ih]
      · simp [word, hc]

theorem value_quote (n : Nat) (bs : Bytes) :
    value R n (0x22 :: bs) = (string bs).map fun (s, rest) => (.string s, rest) := by
  unfold value
  rfl

theorem value_skip (hs : Blank s) (bs : Bytes) : value R n (s ++ bs) = value R n bs := by
  unfold value
  rw [skipSpace_append hs]

theorem value_bracket (n : Nat) (bs : Bytes) :
    value R (n + 1) (0x5B :: bs) = array (value R n) bs := by
  conv_lhs => unfold value
  rfl

theorem value_brace (n : Nat) (bs : Bytes) :
    value R (n + 1) (0x7B :: bs) = object (value R n) bs := by
  conv_lhs => unfold value
  rfl

theorem text_leaf {A : Numeral → Number → Prop} (h : Leaf A v t) (n : Nat) : Text A n v t := by
  cases n with
  | zero => exact h
  | succ n => exact .inl h

theorem value_leaf (h : Leaf (Numeral.Denotes R) v t) (hr : EndsNumber r) :
    value R n (t ++ r) = .ok (v, r) := by
  cases h with
  | null =>
    unfold value
    rfl
  | true =>
    unfold value
    rfl
  | false =>
    unfold value
    rfl
  | @number x m h =>
    have hnumber := number_chars h hr
    cases hx : x.negative with
    | false =>
      have hchars : x.chars = x.unsigned := by simp [Numeral.chars, hx]
      rw [hx] at hnumber
      rw [hchars]
      exact value_of_number hnumber n
    | true =>
      have hchars : encodeChars x.chars ++ r = 0x2D :: (encodeChars x.unsigned ++ r) := by
        simp [Numeral.chars, hx]
        rfl
      rw [hx] at hnumber
      rw [hchars, value_minus, hnumber]
      rfl
  | string h =>
    obtain ⟨body, rfl, hstring⟩ := string_quoted h r
    rw [List.cons_append, value_quote, hstring]
    rfl

theorem value_nested (hbelow : Recognizes (value R n) (Text (Numeral.Denotes R) n))
    (h : Nested (Text (Numeral.Denotes R) n) v t) (r : Bytes) :
    value R (n + 1) (t ++ r) = .ok (v, r) := by
  cases h with
  | @array vs bs h =>
    rw [List.cons_append, List.cons_append, List.append_assoc, List.singleton_append, value_bracket]
    exact (array_eq_ok hbelow).2 ⟨vs, bs, rfl, h, rfl⟩
  | @object ms bs h =>
    rw [List.cons_append, List.cons_append, List.append_assoc, List.singleton_append, value_brace]
    exact (object_eq_ok (member_recognizes hbelow value_skip)).2 ⟨ms, bs, rfl, h, rfl⟩

theorem head_numeral (x : Numeral) :
    ∃ b u, encodeChars x.chars = b :: u ∧ (b = 0x2D ∨ isDigit b = true) := by
  cases hx : x.negative with
  | false =>
    obtain ⟨c, cs, hwhole⟩ := List.exists_cons_of_ne_nil x.leading.ne_nil
    have hc := x.leading.digits c (hwhole ▸ List.mem_cons_self)
    have hchars : ∃ ds, x.chars = c :: ds := by
      simp [Numeral.chars, Numeral.unsigned, hx, hwhole]
    obtain ⟨ds, hds⟩ := hchars
    exact ⟨_, _, hds ▸ encodeChars_digit_cons hc ds, .inr (isDigit_byte hc)⟩
  | true =>
    have hchars : x.chars = '-' :: x.unsigned := by simp [Numeral.chars, hx]
    exact ⟨0x2D, encodeChars x.unsigned, by rw [hchars, Utf8.encodeChars_cons]; rfl, .inl rfl⟩

theorem leaf_begins {A : Numeral → Number → Prop} (h : Leaf A v t) : Begins t := by
  cases h with
  | null => exact ⟨0x6E, _, rfl, rfl, by decide, by decide⟩
  | true => exact ⟨0x74, _, rfl, rfl, by decide, by decide⟩
  | false => exact ⟨0x66, _, rfl, rfl, by decide, by decide⟩
  | @number x m h =>
    obtain ⟨b, u, hx, hb⟩ := head_numeral x
    refine ⟨b, u, hx, ?_⟩
    rcases hb with rfl | hb
    · decide
    · refine ⟨?_, ne_of_class hb rfl, ne_of_class hb rfl⟩
      rw [Bool.eq_false_iff]
      intro hspace
      rcases isSpace_iff.1 hspace with rfl | rfl | rfl | rfl <;> cases hb
  | string h =>
    obtain ⟨units, -, rfl⟩ := h
    exact ⟨0x22, _, rfl, rfl, by decide, by decide⟩

theorem text_begins {A : Numeral → Number → Prop} (h : Text A n v t) : Begins t := by
  cases n with
  | zero => exact leaf_begins h
  | succ n =>
    rcases h with h | h
    · exact leaf_begins h
    · cases h with
      | array => exact ⟨0x5B, _, rfl, rfl, by decide, by decide⟩
      | object => exact ⟨0x7B, _, rfl, rfl, by decide, by decide⟩

theorem value_begins (h : value R n bs = .ok (v, r)) :
    ∃ b t, skipSpace bs = b :: t ∧ skipSpace (b :: t) = b :: t ∧
      value R n (b :: t) = .ok (v, r) := by
  have hspace : skipSpace (skipSpace bs) = skipSpace bs := List.dropWhile_idempotent isSpace bs
  have hskip : value R n (skipSpace bs) = .ok (v, r) := by
    rw [← h]
    unfold value
    rw [hspace]
  cases hbs : skipSpace bs with
  | nil =>
    rw [hbs] at hskip
    unfold value at hskip
    cases hskip
  | cons b t =>
    rw [hbs] at hspace hskip
    exact ⟨b, t, rfl, hspace, hskip⟩

theorem value_spelled
    (hbelow : ∀ k, n = k + 1 → Recognizes (value R k) (Text (Numeral.Denotes R) k))
    {b : UInt8} (hb : skipSpace (b :: bs) = b :: bs) (h : value R n (b :: bs) = .ok (v, r)) :
    ∃ t, Text (Numeral.Denotes R) n v t ∧ b :: bs = t ++ r := by
  unfold value at h
  rw [hb] at h
  dsimp only at h
  -- The first byte tells the kind of the value.
  split_ifs at h with hnull htrue hfalse hquote hminus hdigit hnested hbracket
  · obtain ⟨rfl, rfl⟩ := word_eq_ok.1 h
    exact ⟨_, text_leaf .null n, hnull ▸ rfl⟩
  · obtain ⟨rfl, rfl⟩ := word_eq_ok.1 h
    exact ⟨_, text_leaf .true n, htrue ▸ rfl⟩
  · obtain ⟨rfl, rfl⟩ := word_eq_ok.1 h
    exact ⟨_, text_leaf .false n, hfalse ▸ rfl⟩
  · obtain ⟨⟨s, rest⟩, hs, hpair⟩ := map_eq_ok.1 h
    obtain ⟨rfl, rfl⟩ := Prod.mk.inj hpair
    obtain ⟨body, hbody, rfl⟩ := exists_quoted hs
    exact ⟨_, text_leaf (.string hbody) n, hquote ▸ rfl⟩
  · obtain ⟨⟨m, rest⟩, hm, hpair⟩ := map_eq_ok.1 h
    obtain ⟨rfl, rfl⟩ := Prod.mk.inj hpair
    obtain ⟨x, hx, hbs⟩ := exists_numeral_chars hm
    exact ⟨_, text_leaf (.number hx) n, hminus ▸ hbs⟩
  · obtain ⟨⟨m, rest⟩, hm, hpair⟩ := map_eq_ok.1 h
    obtain ⟨rfl, rfl⟩ := Prod.mk.inj hpair
    obtain ⟨x, hx, hbs⟩ := exists_numeral_chars hm
    exact ⟨_, text_leaf (.number hx) n, hbs⟩
  · cases n with
    | zero => cases h
    | succ k =>
      obtain ⟨vs, text, rfl, htext, rfl⟩ := (array_eq_ok (hbelow k rfl)).1 h
      refine ⟨_, .inr (.array htext), ?_⟩
      rw [hbracket]
      simp
  · cases n with
    | zero => cases h
    | succ k =>
      obtain ⟨ms, text, rfl, htext, rfl⟩ :=
        (object_eq_ok (member_recognizes (hbelow k rfl) value_skip)).1 h
      have hbrace : b = 0x7B := by simpa [hbracket] using hnested
      refine ⟨_, .inr (.object htext), ?_⟩
      rw [hbrace]
      simp

theorem recognizes_of_below
    (hbelow : ∀ k, n = k + 1 → Recognizes (value R k) (Text (Numeral.Denotes R) k)) :
    Recognizes (value R n) (Text (Numeral.Denotes R) n) where
  sound {bs v r} h := by
    obtain ⟨s, hs, hbs⟩ := exists_blank bs
    obtain ⟨b, u, hskip, hb, hvalue⟩ := value_begins h
    obtain ⟨t, ht, hbu⟩ := value_spelled hbelow hb hvalue
    refine ⟨s, t, hs, ht, ?_⟩
    rw [hbs, hskip, hbu, List.append_assoc]
  complete {v t r} h hr := by
    cases n with
    | zero => exact value_leaf h hr
    | succ k =>
      rcases h with h | h
      · exact value_leaf h hr
      · exact value_nested (hbelow k rfl) h r
  begins h := text_begins h

/-- The texts of the values of a depth are what is read at that depth. The induction is on the
depth: the readers of arrays and objects use the one below. -/
theorem value_recognizes (n : Nat) : Recognizes (value R n) (Text (Numeral.Denotes R) n) := by
  induction n with
  | zero => exact recognizes_of_below fun k hk => nomatch hk
  | succ n ih => exact recognizes_of_below fun k hk => Nat.succ.inj hk ▸ ih

/-- A text is read as the value that it spells. -/
theorem document_eq_ok {text : Bytes} :
    document R text = .ok v ↔ Document (Numeral.Denotes R) v text := by
  have hvalues := value_recognizes (R := R) maxDepth
  constructor
  · intro h
    obtain ⟨⟨w, rest⟩, hw, hend⟩ := bind_eq_ok.1 h
    clear h
    obtain ⟨s, t, hs, ht, rfl⟩ := hvalues.sound hw
    obtain ⟨u, hu, hrest⟩ := exists_blank rest
    dsimp only at hend
    split at hend
    · rename_i hnil
      obtain rfl := Except.ok.inj hend
      rw [hnil, List.append_nil] at hrest
      rw [hrest]
      exact .mk hs ht hu
    · cases hend
  · intro h
    cases h with
    | @mk s t u hs ht hu =>
      have hend : EndsNumber u := List.append_nil u ▸ endsNumber_blank hu endsNumber_nil
      have hnil : skipSpace u = [] := List.append_nil u ▸ skipSpace_append hu []
      rw [document, List.append_assoc, value_skip hs, hvalues.complete ht hend]
      simp only [bind, Except.bind, hnil]
      rfl

theorem read_eq_ok {text : Bytes} :
    read text = .ok v ↔ Document (Numeral.Denotes .quick) v text := by
  rw [← document_eq_ok, read]
  cases document .quick text <;> simp [Except.mapError]

end DumpWorkbench.Json
