import DumpWorkbench.Proofs.Json.RoundTrip

namespace DumpWorkbench.Json

open Utf8 (encodeChar encodeChars)

variable {s t u : Bytes} {b : UInt8} {n : Nat} {v : Value}

/-- Where a byte stands: outside of strings, in one, or in one behind a backslash. -/
inductive Region where
  | outside
  | inside
  | escaped
deriving DecidableEq, Repr

def Region.next : Region → UInt8 → Region
  | .outside, b => if b = 0x22 then .inside else .outside
  | .inside, b => if b = 0x22 then .outside else if b = 0x5C then .escaped else .inside
  | .escaped, _ => .inside

/-- The bytes that stand outside of strings, with the opening quotes. -/
def unquoted : Region → Bytes → Bytes
  | _, [] => []
  | region, b :: bs =>
    if region = .outside then b :: unquoted (region.next b) bs else unquoted (region.next b) bs

theorem unquoted_append (region : Region) (s t : Bytes) :
    unquoted region (s ++ t) = unquoted region s ++ unquoted (s.foldl Region.next region) t := by
  induction s generalizing region with
  | nil => rfl
  | cons b s ih =>
    rw [List.cons_append, unquoted, unquoted, ih, List.foldl_cons]
    split_ifs <;> rfl

/-- Bytes that lie within one string. -/
structure Hidden (u : Bytes) : Prop where
  region : u.foldl Region.next .inside = .inside
  nothing : unquoted .inside u = []

theorem hidden_nil : Hidden [] := ⟨rfl, rfl⟩

theorem Hidden.append (hs : Hidden s) (ht : Hidden t) : Hidden (s ++ t) := by
  refine ⟨?_, ?_⟩
  · rw [List.foldl_append, hs.region, ht.region]
  · rw [unquoted_append, hs.nothing, hs.region, ht.nothing, List.append_nil]

theorem hidden_byte (hquote : b ≠ 0x22) (hslash : b ≠ 0x5C) : Hidden [b] := by
  refine ⟨?_, rfl⟩
  simp [Region.next, hquote, hslash]

theorem hidden_escape (b : UInt8) : Hidden [0x5C, b] := ⟨rfl, rfl⟩

theorem hidden_bytes (h : ∀ b ∈ u, b ≠ 0x22 ∧ b ≠ 0x5C) : Hidden u := by
  induction u with
  | nil => exact hidden_nil
  | cons b u ih =>
    obtain ⟨⟨hquote, hslash⟩, hu⟩ := List.forall_mem_cons.1 h
    exact (hidden_byte hquote hslash).append (ih hu)

theorem hidden_hexUnit (h : HexUnit u n) : Hidden u := by
  have hdigit : ∀ {b n}, HexDigit b n → b ≠ 0x22 ∧ b ≠ 0x5C := by
    have hten : ∀ k < 10, UInt8.ofNat (0x30 + k) ≠ 0x22 ∧ UInt8.ofNat (0x30 + k) ≠ 0x5C := by
      decide
    have hupper : ∀ k < 6, UInt8.ofNat (0x41 + k) ≠ 0x22 ∧ UInt8.ofNat (0x41 + k) ≠ 0x5C := by
      decide
    have hlower : ∀ k < 6, UInt8.ofNat (0x61 + k) ≠ 0x22 ∧ UInt8.ofNat (0x61 + k) ≠ 0x5C := by
      decide
    intro b n h
    cases h with
    | digit h => exact hten _ h
    | upper h => exact hupper _ h
    | lower h => exact hlower _ h
  cases h with
  | mk ha hb hc hd =>
    apply hidden_bytes
    simp [hdigit ha, hdigit hb, hdigit hc, hdigit hd]

theorem hidden_spells {c : Char} (h : Spells c u) : Hidden u := by
  cases h with
  | plain hquote hslash hcontrol =>
    rw [Utf8.utf8EncodeChar_eq]
    apply hidden_bytes
    intro b hb
    have hplain := plain_of_mem_encodeChar hquote hslash (Nat.not_lt.2 hcontrol) b hb
    exact ⟨hplain.1, hplain.2.1⟩
  | letter => exact hidden_escape _
  | unit hds => exact (hidden_escape 0x75).append (hidden_hexUnit hds)
  | pair hds _ hes =>
    have hhigh := (hidden_escape 0x75).append (hidden_hexUnit hds)
    exact hhigh.append ((hidden_escape 0x75).append (hidden_hexUnit hes))

/-- Bytes that open and close their strings and have no blank outside of them. -/
structure Tight (t : Bytes) : Prop where
  region : t.foldl Region.next .outside = .outside
  no_blank : ∀ b ∈ unquoted .outside t, isSpace b = false

theorem tight_nil : Tight [] := ⟨rfl, List.forall_mem_nil _⟩

theorem Tight.append (hs : Tight s) (ht : Tight t) : Tight (s ++ t) := by
  refine ⟨?_, ?_⟩
  · rw [List.foldl_append, hs.region, ht.region]
  · rw [unquoted_append, hs.region]
    exact List.forall_mem_append.2 ⟨hs.no_blank, ht.no_blank⟩

def isMark (b : UInt8) : Bool := b != 0x22 && !isSpace b

theorem tight_byte (h : isMark b = true) : Tight [b] := by
  simp only [isMark, Bool.and_eq_true, bne_iff_ne, Bool.not_eq_true'] at h
  refine ⟨?_, ?_⟩
  · simp [Region.next, h.1]
  · simpa [unquoted] using h.2

theorem tight_bytes (h : ∀ b ∈ t, isMark b = true) : Tight t := by
  induction t with
  | nil => exact tight_nil
  | cons b t ih =>
    obtain ⟨hb, ht⟩ := List.forall_mem_cons.1 h
    exact (tight_byte hb).append (ih ht)

theorem tight_all (h : t.all isMark = true) : Tight t := tight_bytes (List.all_eq_true.1 h)

theorem tight_flatMap {α : Type} {f : α → Bytes} {xs : List α} (h : ∀ x ∈ xs, Tight (f x)) :
    Tight (xs.flatMap f) := by
  induction xs with
  | nil => exact tight_nil
  | cons x xs ih =>
    obtain ⟨hx, hxs⟩ := List.forall_mem_cons.1 h
    rw [List.flatMap_cons]
    exact hx.append (ih hxs)

theorem tight_quoted {text : String} (h : Quoted text t) : Tight t := by
  obtain ⟨units, hunits, rfl⟩ := h
  -- By induction over the characters: none of them closes the string.
  have hbody : Hidden units.flatten := by
    generalize text.toList = cs at hunits
    induction hunits with
    | nil => exact hidden_nil
    | cons hspells _ ih => exact (hidden_spells hspells).append ih
  refine ⟨?_, ?_⟩
  · rw [List.foldl_append, List.foldl_cons]
    exact congrArg (Region.next · 0x22) hbody.region
  · have hopen : unquoted .outside (0x22 :: units.flatten ++ [0x22]) =
        0x22 :: unquoted .inside (units.flatten ++ [0x22]) := rfl
    rw [hopen, unquoted_append, hbody.nothing, hbody.region]
    simp [unquoted, isSpace]

theorem mem_numeral {x : Numeral} {c : Char} (h : c ∈ x.chars) :
    c.isDigit = true ∨ c ∈ ['-', '+', '.', 'e', 'E'] := by
  have hexponent : ∀ y : Exponent, c ∈ y.chars →
      c.isDigit = true ∨ c ∈ ['-', '+', '.', 'e', 'E'] := by
    intro y hc
    rcases List.mem_cons.1 hc with rfl | hc
    · rcases y.mark_eq with hmark | hmark <;> simp [hmark]
    rcases List.mem_append.1 hc with hc | hc
    · cases hsign : y.sign <;> simp [hsign, Sign.chars] at hc <;> simp [hc]
    · exact .inl (y.isDigit c hc)
  rcases List.mem_append.1 h with hc | hc
  · split_ifs at hc
    · simp [List.mem_singleton.1 hc]
    · cases hc
  rcases List.mem_append.1 hc with hc | hc
  · rcases List.mem_append.1 hc with hc | hc
    · exact .inl (x.leading.digits c hc)
    · split_ifs at hc
      · cases hc
      rcases List.mem_cons.1 hc with rfl | hc
      · simp
      · exact .inl (x.isDigit c hc)
  · cases hy : x.exponent with
    | none =>
      rw [hy] at hc
      cases hc
    | some y =>
      rw [hy] at hc
      exact hexponent y hc

theorem isMark_of_isDigit (h : isDigit b = true) : isMark b = true := by
  have hne {a : UInt8} (ha : isDigit a = false) : b ≠ a := ne_of_class h ha
  simp [isMark, isSpace, hne (a := 0x22) rfl, hne (a := 0x20) rfl, hne (a := 0x09) rfl,
    hne (a := 0x0A) rfl, hne (a := 0x0D) rfl]

theorem tight_numeral (x : Numeral) : Tight (encodeChars x.chars) := by
  have hmarks : (['-', '+', '.', 'e', 'E'].all fun c => (encodeChar c).all isMark) = true := by
    decide
  apply tight_bytes
  intro b hb
  obtain ⟨c, hc, hb⟩ := List.mem_flatMap.1 hb
  rcases mem_numeral hc with hdigit | hc
  · rw [(encodeChar_digit hdigit).1, List.mem_singleton] at hb
    rw [hb]
    exact isMark_of_isDigit (isDigit_byte hdigit)
  · exact List.all_eq_true.1 (List.all_eq_true.1 hmarks c hc) b hb

theorem tight_items {vs : List Value} (h : ∀ v ∈ vs, Tight (encodeChars (compactChars v))) :
    Tight (encodeChars (compactItems vs)) := by
  rw [encodeChars_compactItems]
  apply tight_flatMap
  intro v hv
  exact (tight_byte (b := 0x2C) rfl).append (h v hv)

theorem tight_member {m : String × Value} (h : Tight (encodeChars (compactChars m.2))) :
    Tight (encodeChars (compactMember m)) := by
  rw [compactMember, Utf8.encodeChars_append, Utf8.encodeChars_cons]
  have hcolon : Tight (encodeChar ':') := tight_byte rfl
  exact (tight_quoted (quoted_quote m.1)).append (hcolon.append h)

theorem tight_members {ms : Members}
    (h : ∀ m ∈ ms, Tight (encodeChars (compactChars m.2))) :
    Tight (encodeChars (compactMembers ms)) := by
  rw [encodeChars_compactMembers]
  apply tight_flatMap
  intro m hm
  exact (tight_byte (b := 0x2C) rfl).append (tight_member (h m hm))

/-- The compact text of a value has no blank outside of its strings. -/
theorem tight_compact (h : Fits Number.Stored n v) : Tight (encodeChars (compactChars v)) := by
  induction h with
  | null n => exact tight_all (by decide)
  | bool n b => cases b <;> exact tight_all (by decide)
  | number n hstored =>
    obtain ⟨x, -, htext⟩ := exists_numeral_text hstored
    rw [compactChars, ← htext]
    exact tight_numeral x
  | string n s => exact tight_quoted (quoted_quote s)
  | @array n vs hvs ih =>
    cases vs with
    | nil => exact tight_all (by decide)
    | cons v vs =>
      obtain ⟨hv, hvs⟩ := List.forall_mem_cons.1 ih
      rw [compactChars, Utf8.encodeChars_cons, Utf8.encodeChars_append, Utf8.encodeChars_append]
      have hopen : Tight (encodeChar '[') := tight_byte rfl
      have hclose : Tight (encodeChars [']']) := tight_byte rfl
      exact hopen.append ((hv.append (tight_items hvs)).append hclose)
  | @object n ms hms ih =>
    cases ms with
    | nil => exact tight_all (by decide)
    | cons m ms =>
      obtain ⟨hm, hms⟩ := List.forall_mem_cons.1 ih
      have hopen : Tight (encodeChar '\x7b') := tight_byte rfl
      have hclose : Tight (encodeChars ['\x7d']) := tight_byte rfl
      have hmembers := (tight_member hm).append (tight_members hms)
      rw [compactChars, Utf8.encodeChars_cons, Utf8.encodeChars_append, Utf8.encodeChars_append]
      exact hopen.append (hmembers.append hclose)

end DumpWorkbench.Json
