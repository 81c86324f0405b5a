import DumpWorkbench.Proofs.Json.Characters
import DumpWorkbench.Proofs.Json.Grammar
import DumpWorkbench.Proofs.Outcome
import Mathlib.Data.List.TakeWhile

namespace DumpWorkbench.Json

variable {α : Type} {item : Scan α} {P : α → Bytes → Prop} {x : α} {xs : List α}
  {bs r s t : Bytes} {close : UInt8}

theorem isSpace_iff {b : UInt8} :
    isSpace b = true ↔ b = 0x20 ∨ b = 0x09 ∨ b = 0x0A ∨ b = 0x0D := by
  simp only [isSpace, Bool.or_eq_true, beq_iff_eq]
  tauto

theorem skipSpace_cons {b : UInt8} (hb : isSpace b = false) (r : Bytes) :
    skipSpace (b :: r) = b :: r := by
  simp [skipSpace, hb]

theorem skipSpace_append (hs : Blank s) (r : Bytes) : skipSpace (s ++ r) = skipSpace r :=
  List.dropWhile_append_of_pos fun b hb => isSpace_iff.2 (hs b hb)

theorem exists_blank (bs : Bytes) : ∃ s, Blank s ∧ bs = s ++ skipSpace bs :=
  ⟨bs.takeWhile isSpace, fun _ hb => isSpace_iff.1 (List.mem_takeWhile_imp hb),
    List.takeWhile_append_dropWhile.symm⟩

theorem blank_append (hs : Blank s) (ht : Blank t) : Blank (s ++ t) :=
  List.forall_mem_append.2 ⟨hs, ht⟩

theorem endsNumber_blank (hs : Blank s) (hr : EndsNumber r) : EndsNumber (s ++ r) := by
  cases s with
  | nil => exact hr
  | cons b s =>
    refine endsNumber_cons ?_ (s ++ r)
    rcases hs b List.mem_cons_self with rfl | rfl | rfl | rfl <;> decide

def Begins (t : Bytes) : Prop := ∃ b u, t = b :: u ∧ isSpace b = false ∧ b ≠ 0x5D ∧ b ≠ 0x7D

/-- The reader takes what spells an item, and nothing else, from the front of the bytes. -/
structure Recognizes (item : Scan α) (P : α → Bytes → Prop) : Prop where
  sound : ∀ {bs x r}, item bs = .ok (x, r) → ∃ s t, Blank s ∧ P x t ∧ bs = s ++ t ++ r
  complete : ∀ {x t r}, P x t → EndsNumber r → item (t ++ r) = .ok (x, r)
  begins : ∀ {x t}, P x t → Begins t

/-- What is read behind an item: more of them, each behind a comma, and what closes the list. -/
inductive Tail (item : Scan α) (close : UInt8) : List α → Bytes → Bytes → Prop
  | close {bs r : Bytes} (h : skipSpace bs = close :: r) : Tail item close [] bs r
  | comma {x : α} {xs : List α} {b : UInt8} {bs r s t u : Bytes} (h : skipSpace bs = 0x2C :: s)
      (hs : skipSpace s = b :: t) (hb : b ≠ close) (hx : item (b :: t) = .ok (x, u))
      (rest : Tail item close xs u r) : Tail item close (x :: xs) bs r

/-- A list as it is read behind its bracket or brace. -/
inductive Enclosed (item : Scan α) (close : UInt8) : List α → Bytes → Bytes → Prop
  | none {bs r : Bytes} (h : skipSpace bs = close :: r) : Enclosed item close [] bs r
  | some {x : α} {xs : List α} {b : UInt8} {bs r t u : Bytes} (hs : skipSpace bs = b :: t)
      (hb : b ≠ close) (hx : item (b :: t) = .ok (x, u)) (rest : Tail item close xs u r) :
      Enclosed item close (x :: xs) bs r

theorem Recognizes.length_le (h : Recognizes item P) (hx : item bs = .ok (x, r)) :
    r.length ≤ bs.length := by
  obtain ⟨s, t, -, -, rfl⟩ := h.sound hx
  simp only [List.length_append]
  omega

theorem skipSpace_length (bs : Bytes) : (skipSpace bs).length ≤ bs.length :=
  List.length_dropWhile_le isSpace bs

theorem Tail.length_lt (hitem : Recognizes item P) (h : Tail item close xs bs r) :
    xs.length < bs.length := by
  induction h with
  | @close bs r h =>
    have hle := skipSpace_length bs
    rw [h, List.length_cons] at hle
    exact Nat.lt_of_lt_of_le (Nat.succ_pos _) hle
  | @comma x xs b bs r s t u h hs _ hx _ ih =>
    have hbs := skipSpace_length bs
    have hle := skipSpace_length s
    have hrest := hitem.length_le hx
    rw [h, List.length_cons] at hbs
    rw [hs] at hle
    rw [List.length_cons]
    omega

theorem Tail.spelled (hitem : Recognizes item P) (h : Tail item close xs bs r) :
    ∃ text, bs = text ++ close :: r ∧
      ∀ {x s t}, Blank s → P x t → Separated P (x :: xs) (s ++ t ++ text) := by
  induction h with
  | @close bs r h =>
    obtain ⟨u, hu, hbs⟩ := exists_blank bs
    exact ⟨u, h ▸ hbs, fun hs hx => .one (.mk hs hx hu)⟩
  | @comma x xs b bs r s t u h hs _ hx _ ih =>
    obtain ⟨v, hv, hbs⟩ := exists_blank bs
    obtain ⟨w, hw, hsplit⟩ := exists_blank s
    obtain ⟨w', t', hw', hx', hbt⟩ := hitem.sound hx
    obtain ⟨text, rfl, htext⟩ := ih
    -- The blanks in front of the comma belong to the item before it, those behind it to the next.
    refine ⟨v ++ 0x2C :: (w ++ w' ++ t' ++ text), ?_, fun {y s' t''} hs' hy => ?_⟩
    · rw [hbs, h, hsplit, hs, hbt]
      simp
    · have hlist := Separated.comma (.mk hs' hy hv) (htext (blank_append hw hw') hx')
      simpa using hlist

theorem Enclosed.listed (hitem : Recognizes item P) (h : Enclosed item close xs bs r) :
    ∃ text, Listed P xs text ∧ bs = text ++ close :: r := by
  obtain ⟨s, hs, hbs⟩ := exists_blank bs
  cases h with
  | none h => exact ⟨s, .none hs, h ▸ hbs⟩
  | some hb _ hx rest =>
    obtain ⟨text, rfl, htext⟩ := rest.spelled hitem
    obtain ⟨s', t', hs', hx', hbt⟩ := hitem.sound hx
    refine ⟨s ++ s' ++ t' ++ text, .some (htext (blank_append hs hs') hx'), ?_⟩
    rw [hbs, hb, hbt]
    simp

theorem Padded.read (hitem : Recognizes item P) (hclose : close = 0x5D ∨ close = 0x7D)
    (h : Padded P x s) (hr : EndsNumber r) :
    ∃ b t u, Blank u ∧ skipSpace (s ++ r) = b :: t ∧ b ≠ close ∧
      item (b :: t) = .ok (x, u ++ r) := by
  obtain ⟨hs, hx, hu⟩ := h
  obtain ⟨b, v, rfl, hb, hbracket, hbrace⟩ := hitem.begins hx
  have hitems := hitem.complete hx (endsNumber_blank hu hr)
  refine ⟨b, _, _, hu, ?_, ?_, hitems⟩
  · rw [List.append_assoc, List.append_assoc, skipSpace_append hs]
    exact skipSpace_cons hb _
  · rcases hclose with rfl | rfl
    · exact hbracket
    · exact hbrace

theorem skipSpace_closing (hclose : close = 0x5D ∨ close = 0x7D) (hs : Blank s) (r : Bytes) :
    skipSpace (s ++ close :: r) = close :: r := by
  rw [skipSpace_append hs]
  rcases hclose with rfl | rfl <;> exact skipSpace_cons rfl r

theorem endsNumber_closing (hclose : close = 0x5D ∨ close = 0x7D) (r : Bytes) :
    EndsNumber (close :: r) := by
  rcases hclose with rfl | rfl <;> exact endsNumber_cons (by decide) r

theorem Separated.enclosed (hitem : Recognizes item P) (hclose : close = 0x5D ∨ close = 0x7D)
    (h : Separated P xs s) (r : Bytes) : Enclosed item close xs (s ++ close :: r) r := by
  induction h with
  | one h =>
    obtain ⟨b, t, u, hu, hs, hb, hx⟩ := h.read hitem hclose (endsNumber_closing hclose r)
    exact .some hs hb hx (.close (skipSpace_closing hclose hu r))
  | @comma x xs s t h rest ih =>
    obtain ⟨b, v, u, hu, hs, hb, hx⟩ :=
      h.read hitem hclose (endsNumber_cons (by decide) (t ++ close :: r) : EndsNumber (0x2C :: _))
    have hcomma : skipSpace (u ++ 0x2C :: (t ++ close :: r)) = 0x2C :: (t ++ close :: r) :=
      (skipSpace_append hu _).trans (skipSpace_cons rfl _)
    rw [List.append_assoc, List.cons_append]
    -- The list goes on behind the comma, so its bracket or brace does not follow there.
    cases ih with
    | none h => cases rest
    | some ht hc hy rest => exact .some hs hb hx (.comma hcomma ht hc hy rest)

theorem enclosed_iff (hitem : Recognizes item P) (hclose : close = 0x5D ∨ close = 0x7D) :
    Enclosed item close xs bs r ↔ ∃ text, Listed P xs text ∧ bs = text ++ close :: r := by
  constructor
  · exact Enclosed.listed hitem
  · rintro ⟨text, hnone | hsome, rfl⟩
    · exact .none (skipSpace_closing hclose hnone r)
    · exact hsome.enclosed hitem hclose r

section

variable {item : Scan Value} {P : Value → Bytes → Prop} {vs : List Value} {ms : Members} {v : Value}
  {fuel : Nat}

theorem tail_of_items (h : items item fuel bs = .ok (vs, r)) : Tail item 0x5D vs bs r := by
  induction fuel generalizing bs vs r with
  | zero => cases h
  | succ fuel ih =>
    unfold items at h
    split at h
    · cases h
    · rename_i b s hbs
      split_ifs at h with hclose hcomma
      · obtain ⟨rfl, rfl⟩ := Prod.mk.inj (Except.ok.inj h)
        exact .close (hclose ▸ hbs)
      · rw [not_not] at hcomma
        split at h
        · cases h
        · rename_i c t hs
          split_ifs at h with hc
          obtain ⟨⟨v, rest⟩, hv, h⟩ := bind_eq_ok.1 h
          obtain ⟨⟨vs, rest'⟩, hvs, h⟩ := bind_eq_ok.1 h
          obtain ⟨rfl, rfl⟩ := Prod.mk.inj (Except.ok.inj h)
          exact .comma (hcomma ▸ hbs) hs hc hv (ih hvs)

theorem items_of_tail (h : Tail item 0x5D vs bs r) (hf : vs.length < fuel) :
    items item fuel bs = .ok (vs, r) := by
  induction h generalizing fuel with
  | close h =>
    obtain ⟨fuel, rfl⟩ := Nat.exists_eq_succ_of_ne_zero (Nat.ne_of_gt hf)
    simp [items, h]
  | comma h hs hb hx _ ih =>
    obtain ⟨fuel, rfl⟩ := Nat.exists_eq_succ_of_ne_zero (Nat.ne_of_gt (Nat.zero_lt_of_lt hf))
    have hrest := ih (Nat.lt_of_succ_lt_succ hf)
    simp only [items, h, hs, hb, hx, hrest, bind, Except.bind]
    rfl

theorem enclosed_of_array (h : array item bs = .ok (v, r)) :
    ∃ vs, v = .array vs ∧ Enclosed item 0x5D vs bs r := by
  unfold array at h
  split at h
  · cases h
  · rename_i b s hbs
    split_ifs at h with hclose
    · obtain ⟨rfl, rfl⟩ := Prod.mk.inj (Except.ok.inj h)
      exact ⟨[], rfl, .none (hclose ▸ hbs)⟩
    · obtain ⟨⟨w, rest⟩, hw, h⟩ := bind_eq_ok.1 h
      obtain ⟨⟨ws, rest'⟩, hws, h⟩ := bind_eq_ok.1 h
      obtain ⟨rfl, rfl⟩ := Prod.mk.inj (Except.ok.inj h)
      exact ⟨w :: ws, rfl, .some hbs hclose hw (tail_of_items hws)⟩

theorem array_of_enclosed (hitem : Recognizes item P) (h : Enclosed item 0x5D vs bs r) :
    array item bs = .ok (.array vs, r) := by
  cases h with
  | none h => simp [array, h]
  | some hs hb hx rest =>
    have hitems := items_of_tail rest (rest.length_lt hitem)
    simp only [array, hs, hb, if_false, hx, hitems, bind, Except.bind]
    rfl

theorem array_eq_ok (hitem : Recognizes item P) :
    array item bs = .ok (v, r) ↔
      ∃ vs text, v = .array vs ∧ Listed P vs text ∧ bs = text ++ 0x5D :: r := by
  constructor
  · intro h
    obtain ⟨vs, rfl, hvs⟩ := enclosed_of_array h
    obtain ⟨text, htext, hbs⟩ := (enclosed_iff hitem (.inl rfl)).1 hvs
    exact ⟨vs, text, rfl, htext, hbs⟩
  · rintro ⟨vs, text, rfl, htext, hbs⟩
    exact array_of_enclosed hitem ((enclosed_iff hitem (.inl rfl)).2 ⟨text, htext, hbs⟩)

/-- The reader of a member leaves the blanks behind the colon to the reader of its value. -/
theorem member_recognizes (hitem : Recognizes item P)
    (hskip : ∀ {s}, Blank s → ∀ bs, item (s ++ bs) = item bs) :
    Recognizes (member item) (Member P) where
  sound {bs m r} h := by
    unfold member at h
    split at h
    · cases h
    · rename_i b s
      split_ifs at h with hquote
      obtain ⟨⟨k, rest⟩, hk, h⟩ := bind_eq_ok.1 h
      dsimp only at h
      split at h
      · cases h
      · rename_i c t hcolon
        split_ifs at h with hc
        obtain ⟨⟨v, rest'⟩, hv, h⟩ := bind_eq_ok.1 h
        obtain ⟨rfl, rfl⟩ := Prod.mk.inj (Except.ok.inj h)
        rw [not_not] at hquote hc
        obtain ⟨body, hkey, rfl⟩ := exists_quoted hk
        obtain ⟨s, hs, hrest⟩ := exists_blank rest
        obtain ⟨u, w, hu, hw, rfl⟩ := hitem.sound hv
        refine ⟨[], _, List.forall_mem_nil _, .mk hkey hs hu hw, ?_⟩
        rw [hrest, hcolon, hquote, hc]
        simp
  complete {m t r} h hr := by
    cases h with
    | @mk key v k s u t hkey hs hu hv =>
      obtain ⟨body, rfl, hstring⟩ := string_quoted hkey (s ++ 0x3A :: (u ++ t ++ r))
      have hcolon : skipSpace (s ++ 0x3A :: (u ++ t ++ r)) = 0x3A :: (u ++ (t ++ r)) := by
        rw [skipSpace_append hs, List.append_assoc]
        exact skipSpace_cons rfl _
      have hvalue : item (u ++ (t ++ r)) = .ok (v, r) :=
        (hskip hu _).trans (hitem.complete hv hr)
      have hbytes : 0x22 :: body ++ s ++ 0x3A :: u ++ t ++ r =
          0x22 :: (body ++ (s ++ 0x3A :: (u ++ t ++ r))) := by simp
      rw [hbytes]
      simp only [member, ne_eq, not_true_eq_false, if_false, hstring, hcolon, hvalue, bind,
        Except.bind]
      rfl
  begins {m t} h := by
    obtain ⟨⟨units, -, rfl⟩, hs, hu, hv⟩ := h
    exact ⟨0x22, _, rfl, rfl, by decide, by decide⟩

theorem tail_of_members (h : members item fuel bs = .ok (ms, r)) :
    Tail (member item) 0x7D ms bs r := by
  induction fuel generalizing bs ms r with
  | zero => cases h
  | succ fuel ih =>
    unfold members at h
    split at h
    · cases h
    · rename_i b s hbs
      split_ifs at h with hclose hcomma
      · obtain ⟨rfl, rfl⟩ := Prod.mk.inj (Except.ok.inj h)
        exact .close (hclose ▸ hbs)
      · rw [not_not] at hcomma
        split at h
        · cases h
        · rename_i c t hs
          split_ifs at h with hc
          obtain ⟨⟨m, rest⟩, hm, h⟩ := bind_eq_ok.1 h
          obtain ⟨⟨ms, rest'⟩, hms, h⟩ := bind_eq_ok.1 h
          obtain ⟨rfl, rfl⟩ := Prod.mk.inj (Except.ok.inj h)
          exact .comma (hcomma ▸ hbs) hs hc hm (ih hms)

theorem members_of_tail (h : Tail (member item) 0x7D ms bs r) (hf : ms.length < fuel) :
    members item fuel bs = .ok (ms, r) := by
  induction h generalizing fuel with
  | close h =>
    obtain ⟨fuel, rfl⟩ := Nat.exists_eq_succ_of_ne_zero (Nat.ne_of_gt hf)
    simp [members, h]
  | comma h hs hb hx _ ih =>
    obtain ⟨fuel, rfl⟩ := Nat.exists_eq_succ_of_ne_zero (Nat.ne_of_gt (Nat.zero_lt_of_lt hf))
    have hrest := ih (Nat.lt_of_succ_lt_succ hf)
    simp only [members, h, hs, hb, hx, hrest, bind, Except.bind]
    rfl

theorem enclosed_of_object (h : object item bs = .ok (v, r)) :
    ∃ ms, v = .object ms ∧ Enclosed (member item) 0x7D ms bs r := by
  unfold object at h
  split at h
  · cases h
  · rename_i b s hbs
    split_ifs at h with hclose
    · obtain ⟨rfl, rfl⟩ := Prod.mk.inj (Except.ok.inj h)
      exact ⟨[], rfl, .none (hclose ▸ hbs)⟩
    · obtain ⟨⟨m, rest⟩, hm, h⟩ := bind_eq_ok.1 h
      obtain ⟨⟨ms, rest'⟩, hms, h⟩ := bind_eq_ok.1 h
      obtain ⟨rfl, rfl⟩ := Prod.mk.inj (Except.ok.inj h)
      exact ⟨m :: ms, rfl, .some hbs hclose hm (tail_of_members hms)⟩

theorem object_of_enclosed (hmember : Recognizes (member item) (Member P))
    (h : Enclosed (member item) 0x7D ms bs r) : object item bs = .ok (.object ms, r) := by
  cases h with
  | none h => simp [object, h]
  | some hs hb hx rest =>
    have hmembers := members_of_tail rest (rest.length_lt hmember)
    simp only [object, hs, hb, if_false, hx, hmembers, bind, Except.bind]
    rfl

theorem object_eq_ok (hmember : Recognizes (member item) (Member P)) :
    object item bs = .ok (v, r) ↔
      ∃ ms text, v = .object ms ∧ Listed (Member P) ms text ∧ bs = text ++ 0x7D :: r := by
  constructor
  · intro h
    obtain ⟨ms, rfl, hms⟩ := enclosed_of_object h
    obtain ⟨text, htext, hbs⟩ := (enclosed_iff hmember (.inr rfl)).1 hms
    exact ⟨ms, text, rfl, htext, hbs⟩
  · rintro ⟨ms, text, rfl, htext, hbs⟩
    exact object_of_enclosed hmember ((enclosed_iff hmember (.inr rfl)).2 ⟨text, htext, hbs⟩)

end

end DumpWorkbench.Json
