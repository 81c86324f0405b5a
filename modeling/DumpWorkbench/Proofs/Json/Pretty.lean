import DumpWorkbench.Proofs.Json.RoundTrip

namespace DumpWorkbench.Json

open Utf8 (encodeChars)

variable {v : Value} {n : Nat}

theorem blank_newLine (level : Nat) : Blank (encodeChars (newLine level)) := by
  have hspaces (k : Nat) : encodeChars (List.replicate k ' ') = List.replicate k 0x20 := by
    induction k with
    | zero => rfl
    | succ k ih =>
      rw [List.replicate_succ, Utf8.encodeChars_cons, ih]
      rfl
  intro b hb
  rw [newLine, Utf8.encodeChars_cons, hspaces] at hb
  rcases List.mem_cons.1 hb with rfl | hb
  · decide
  · exact .inl (List.eq_of_mem_replicate hb)

variable {P : Value → Bytes → Prop}

theorem encodeChars_prettyItems (level : Nat) (vs : List Value) :
    encodeChars (prettyItems level vs) = vs.flatMap fun v => 0x2C ::
      (encodeChars (newLine (level + 1)) ++ encodeChars (prettyChars (level + 1) v)) := by
  induction vs with
  | nil => rfl
  | cons v vs ih =>
    rw [prettyItems, List.flatMap_cons, ← ih, Utf8.encodeChars_cons, Utf8.encodeChars_append,
      Utf8.encodeChars_append]
    rfl

def prettyMember (level : Nat) (m : String × Value) : List Char :=
  quote m.1 ++ ':' :: ' ' :: prettyChars level m.2

theorem encodeChars_prettyMembers (level : Nat) (ms : Members) :
    encodeChars (prettyMembers level ms) = ms.flatMap fun m => 0x2C ::
      (encodeChars (newLine (level + 1)) ++ encodeChars (prettyMember (level + 1) m)) := by
  induction ms with
  | nil => rfl
  | cons m ms ih =>
    obtain ⟨key, v⟩ := m
    rw [prettyMembers, List.flatMap_cons, ← ih, prettyMember]
    simp only [Utf8.encodeChars_cons, Utf8.encodeChars_append, List.append_assoc, List.cons_append]
    rfl

theorem member_pretty {level : Nat} {m : String × Value}
    (h : P m.2 (encodeChars (prettyChars level m.2))) :
    Member P m (encodeChars (prettyMember level m)) := by
  have hspace : Blank [0x20] := by
    intro b hb
    exact .inl (List.mem_singleton.1 hb)
  have hmember := Member.mk (quoted_quote m.1) blank_nil hspace h
  rw [prettyMember, Utf8.encodeChars_append, Utf8.encodeChars_cons, Utf8.encodeChars_cons]
  rwa [List.append_nil, List.append_assoc] at hmember

theorem nested_prettyArray {level : Nat} {vs : List Value}
    (h : ∀ v ∈ vs, P v (encodeChars (prettyChars (level + 1) v))) :
    Nested P (.array vs) (encodeChars (prettyChars level (.array vs))) := by
  cases vs with
  | nil => exact .array (.none blank_nil)
  | cons v vs =>
    have hlist := Nested.array (.some (separated_indented (blank_newLine (level + 1))
      (blank_newLine level) h))
    rw [prettyChars, Utf8.encodeChars_cons]
    simp only [Utf8.encodeChars_append, encodeChars_prettyItems]
    exact hlist

theorem nested_prettyObject {level : Nat} {ms : Members}
    (h : ∀ m ∈ ms, P m.2 (encodeChars (prettyChars (level + 1) m.2))) :
    Nested P (.object ms) (encodeChars (prettyChars level (.object ms))) := by
  cases ms with
  | nil => exact .object (.none blank_nil)
  | cons m ms =>
    obtain ⟨key, v⟩ := m
    have hlist := Nested.object (.some (separated_indented (blank_newLine (level + 1))
      (blank_newLine level) fun m hm => member_pretty (h m hm)))
    have hchars : prettyChars level (.object ((key, v) :: ms)) =
        '\x7b' :: (newLine (level + 1) ++ prettyMember (level + 1) (key, v) ++
          prettyMembers level ms ++ newLine level ++ ['\x7d']) := by
      simp only [prettyChars, prettyMember, List.append_assoc]
    rw [hchars, Utf8.encodeChars_cons]
    simp only [Utf8.encodeChars_append, encodeChars_prettyMembers]
    exact hlist

/-- The indented text of a value that fits spells it, at every level of indentation. The induction
is on the depth's derivation, as for the compact text, which is the same outside of brackets. -/
theorem text_pretty {A : Numeral → Number → Prop} (h : Fits (Number.Spelled A) n v)
    (level : Nat) : Text A n v (encodeChars (prettyChars level v)) := by
  induction h generalizing level with
  | null n => exact text_compact (.null n)
  | bool n b => cases b <;> exact text_compact (.bool n _)
  | number n hstored => exact text_compact (.number n hstored)
  | string n s => exact text_compact (.string n s)
  | array _ ih => exact .inr (nested_prettyArray fun v hv => ih v hv (level + 1))
  | object _ ih => exact .inr (nested_prettyObject fun m hm => ih m hm (level + 1))

end DumpWorkbench.Json
