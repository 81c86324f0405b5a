import DumpWorkbench.Proofs.Json.Document
import DumpWorkbench.Proofs.Json.Sorted
import DumpWorkbench.Proofs.Json.String

namespace DumpWorkbench.Json

open Utf8 (encodeChars)

section

variable {α : Type} {P : α → Bytes → Prop} {x : α} {xs : List α} {s : Bytes}

theorem Separated.forall (h : Separated P xs s) : ∀ x ∈ xs, ∃ t, P x t := by
  induction h with
  | one h =>
    intro x hx
    obtain rfl := List.mem_singleton.1 hx
    obtain ⟨-, h, -⟩ := h
    exact ⟨_, h⟩
  | comma h _ ih =>
    obtain ⟨-, h, -⟩ := h
    exact List.forall_mem_cons.2 ⟨⟨_, h⟩, ih⟩

theorem Listed.forall (h : Listed P xs s) : ∀ x ∈ xs, ∃ t, P x t := by
  cases h with
  | none => exact List.forall_mem_nil _
  | some h => exact h.forall

end

variable {bs : Bytes} {v : Value} {n : Nat} {A : Numeral → Number → Prop} {S : Number → Prop}

theorem Leaf.fits (h : Leaf (Numeral.Denotes .quick) v bs) (n : Nat) : Fits Number.Stored n v := by
  cases h with
  | null => exact .null n
  | true => exact .bool n Bool.true
  | false => exact .bool n Bool.false
  | number h => exact .number n h.stored
  | string => exact .string n _

/-- What a text holds fits the depth of the text. -/
theorem text_fits (h : Text (Numeral.Denotes .quick) n v bs) : Fits Number.Stored n v := by
  induction n generalizing v bs with
  | zero => exact Leaf.fits h 0
  | succ n ih =>
    rcases h with h | h
    · exact h.fits (n + 1)
    · cases h with
      | array h =>
        refine .array fun w hw => ?_
        obtain ⟨t, ht⟩ := h.forall w hw
        exact ih ht
      | object h =>
        refine .object fun m hm => ?_
        obtain ⟨t, ht⟩ := h.forall m hm
        obtain ⟨-, -, -, ht⟩ := ht
        exact ih ht

theorem read_fits {text : Bytes} (h : read text = .ok v) : Fits Number.Stored maxDepth v := by
  obtain ⟨-, htext, -⟩ := read_eq_ok.1 h
  exact text_fits htext

theorem blank_nil : Blank [] := List.forall_mem_nil _

section

variable {α : Type} {P : α → Bytes → Prop} {f : α → Bytes} {x : α} {xs : List α} {s u : Bytes}

theorem padded_bare (h : P x s) : Padded P x s := by
  have hpadded := Padded.mk blank_nil h blank_nil
  rwa [List.nil_append, List.append_nil] at hpadded

theorem separated_indented (hs : Blank s) (hu : Blank u) (hf : ∀ y ∈ x :: xs, P y (f y)) :
    Separated P (x :: xs) (s ++ f x ++ xs.flatMap (fun y => 0x2C :: (s ++ f y)) ++ u) := by
  induction xs generalizing x with
  | nil =>
    rw [List.flatMap_nil, List.append_nil]
    exact .one (.mk hs (hf x List.mem_cons_self) hu)
  | cons y xs ih =>
    obtain ⟨hx, hxs⟩ := List.forall_mem_cons.1 hf
    have hlist := Separated.comma (.mk hs hx blank_nil) (ih hxs)
    rw [List.append_nil] at hlist
    simpa using hlist

theorem separated_flatMap (hf : ∀ y ∈ x :: xs, P y (f y)) :
    Separated P (x :: xs) (f x ++ xs.flatMap (0x2C :: f ·)) := by
  have hlist := separated_indented blank_nil blank_nil hf
  rwa [List.nil_append, List.append_nil] at hlist

end

theorem encodeChars_compactItems (vs : List Value) :
    encodeChars (compactItems vs) = vs.flatMap fun v => 0x2C :: encodeChars (compactChars v) := by
  induction vs with
  | nil => rfl
  | cons v vs ih =>
    rw [compactItems, List.flatMap_cons, ← ih, Utf8.encodeChars_cons, Utf8.encodeChars_append]
    rfl

def compactMember (m : String × Value) : List Char := quote m.1 ++ ':' :: compactChars m.2

theorem encodeChars_compactMembers (ms : Members) :
    encodeChars (compactMembers ms) =
      ms.flatMap fun m => 0x2C :: encodeChars (compactMember m) := by
  induction ms with
  | nil => rfl
  | cons m ms ih =>
    obtain ⟨key, v⟩ := m
    rw [compactMembers, List.flatMap_cons, ← ih, Utf8.encodeChars_cons, Utf8.encodeChars_append]
    rfl

theorem quoted_quote (s : String) : Quoted s (encodeChars (quote s)) := by
  obtain ⟨body, hquoted, hbody⟩ := exists_quoted (string_escaped s [])
  rw [encodeChars_quote, hbody, List.append_nil]
  exact hquoted

theorem member_compact {P : Value → Bytes → Prop} {m : String × Value}
    (h : P m.2 (encodeChars (compactChars m.2))) : Member P m (encodeChars (compactMember m)) := by
  have hmember := Member.mk (quoted_quote m.1) blank_nil blank_nil h
  rw [compactMember, Utf8.encodeChars_append, Utf8.encodeChars_cons]
  rwa [List.append_nil, List.append_assoc] at hmember

theorem nested_array {P : Value → Bytes → Prop} {vs : List Value}
    (h : ∀ v ∈ vs, P v (encodeChars (compactChars v))) :
    Nested P (.array vs) (encodeChars (compactChars (.array vs))) := by
  cases vs with
  | nil => exact .array (.none blank_nil)
  | cons v vs =>
    have hlist := Nested.array (.some (separated_flatMap h))
    rw [compactChars, Utf8.encodeChars_cons, Utf8.encodeChars_append, Utf8.encodeChars_append,
      encodeChars_compactItems]
    exact hlist

theorem nested_object {P : Value → Bytes → Prop} {ms : Members}
    (h : ∀ m ∈ ms, P m.2 (encodeChars (compactChars m.2))) :
    Nested P (.object ms) (encodeChars (compactChars (.object ms))) := by
  cases ms with
  | nil => exact .object (.none blank_nil)
  | cons m ms =>
    obtain ⟨key, v⟩ := m
    have hlist := Nested.object (.some (separated_flatMap fun m hm => member_compact (h m hm)))
    rw [compactChars, Utf8.encodeChars_cons, Utf8.encodeChars_append, Utf8.encodeChars_append,
      encodeChars_compactMembers]
    exact hlist

/-- What is written for the number is one of its numerals. -/
def Number.Spelled (A : Numeral → Number → Prop) (n : Number) : Prop :=
  ∃ x : Numeral, A x n ∧ encodeChars x.chars = encodeChars n.text

def Number.Whole (n : Number) : Prop := n.Stored ∧ ∃ i, n = .integer i

theorem Number.Whole.spelled {n : Number} (h : n.Whole) (R : Rounding) :
    n.Spelled (Numeral.Denotes R) := by
  obtain ⟨hstored, i, rfl⟩ := h
  obtain ⟨x, hx, htext⟩ := exists_numeral_text hstored
  cases hx with
  | integer hint => exact ⟨x, .integer hint, htext⟩

/-- The compact text of a value spells it if that holds of its numbers. The induction is on the
depth's derivation, a step for each bracket. -/
theorem text_compact (h : Fits (Number.Spelled A) n v) :
    Text A n v (encodeChars (compactChars v)) := by
  induction h with
  | null n => exact text_leaf .null n
  | bool n b =>
    cases b with
    | false => exact text_leaf .false n
    | true => exact text_leaf .true n
  | number n hspelled =>
    obtain ⟨x, hx, htext⟩ := hspelled
    exact text_leaf (htext ▸ .number hx) n
  | string n s => exact text_leaf (.string (quoted_quote s)) n
  | array _ ih => exact .inr (nested_array ih)
  | object _ ih => exact .inr (nested_object ih)

theorem document_compact (h : Fits (Number.Spelled A) maxDepth v) :
    Document A v (Utf8.encode v.compact) := by
  rw [Utf8.encode, Value.compact, String.toList_ofList]
  exact padded_bare (text_compact h)

theorem document_exact (h : Fits Number.Stored maxDepth v) :
    document .exact (Utf8.encode v.compact) = .ok v :=
  document_eq_ok.2 (document_compact (h.mono fun _ hn => exists_numeral_text hn))

theorem compact_inj {w : Value} (hv : Fits Number.Stored maxDepth v)
    (hw : Fits Number.Stored maxDepth w) (h : v.compact = w.compact) : v = w := by
  have hback := document_exact hv
  rw [h, document_exact hw] at hback
  exact (Except.ok.inj hback).symm

end DumpWorkbench.Json
