import DumpWorkbench.Json.Basic
import DumpWorkbench.Proofs.Json.Number
import Mathlib.Data.String.Basic

namespace DumpWorkbench.Json

variable {key : String} {v : Value} {ms : Members} {n : Nat} {S T : Number → Prop}

/-- Arrays and objects nest at most so deep, and every number is one of those. -/
inductive Fits (S : Number → Prop) : Nat → Value → Prop
  | null (n : Nat) : Fits S n .null
  | bool (n : Nat) (b : Bool) : Fits S n (.bool b)
  | number (n : Nat) {x : Number} (hx : S x) : Fits S n (.number x)
  | string (n : Nat) (s : String) : Fits S n (.string s)
  | array {n : Nat} {vs : List Value} (hvs : ∀ v ∈ vs, Fits S n v) : Fits S (n + 1) (.array vs)
  | object {n : Nat} {ms : Members} (hms : ∀ m ∈ ms, Fits S n m.2) : Fits S (n + 1) (.object ms)

theorem Fits.mono (hST : ∀ x, S x → T x) (h : Fits S n v) : Fits T n v := by
  induction h with
  | null n => exact .null n
  | bool n b => exact .bool n b
  | number n hx => exact .number n (hST _ hx)
  | string n s => exact .string n s
  | array _ ih => exact .array ih
  | object _ ih => exact .object ih

def Members.Ascending (ms : Members) : Prop := ms.Pairwise fun a b => a.1 < b.1

/-- The members of every object ascend. -/
inductive Ordered : Value → Prop
  | null : Ordered .null
  | bool (b : Bool) : Ordered (.bool b)
  | number (x : Number) : Ordered (.number x)
  | string (s : String) : Ordered (.string s)
  | array {vs : List Value} (hvs : ∀ v ∈ vs, Ordered v) : Ordered (.array vs)
  | object {ms : Members} (hms : ∀ m ∈ ms, Ordered m.2) (ha : ms.Ascending) :
    Ordered (.object ms)

theorem mem_insertNew {m : String × Value} (h : m ∈ Members.insertNew key v ms) :
    m = (key, v) ∨ m ∈ ms := by
  induction ms with
  | nil => exact Or.inl (List.mem_singleton.1 h)
  | cons a ms ih =>
    unfold Members.insertNew at h
    split_ifs at h
    · exact List.mem_cons.1 h
    · exact Or.inr h
    · rcases List.mem_cons.1 h with h | h
      · exact Or.inr (h ▸ List.mem_cons_self)
      · exact (ih h).imp_right (List.mem_cons_of_mem a)

theorem Members.Ascending.insertNew (h : ms.Ascending) (key : String) (v : Value) :
    (Members.insertNew key v ms).Ascending := by
  induction ms with
  | nil => exact List.pairwise_singleton _ _
  | cons a ms ih =>
    obtain ⟨ha, hms⟩ := List.pairwise_cons.1 h
    unfold Members.insertNew
    split_ifs with hlt heq
    · refine List.pairwise_cons.2 ⟨fun m hm => ?_, h⟩
      rcases List.mem_cons.1 hm with rfl | hm
      · exact hlt
      · exact hlt.trans (ha m hm)
    · exact h
    · refine List.pairwise_cons.2 ⟨fun m hm => ?_, ih hms⟩
      rcases mem_insertNew hm with rfl | hm
      · exact lt_of_le_of_ne (not_lt.1 hlt) (Ne.symm heq)
      · exact ha m hm

theorem insertNew_of_lt (h : ∀ m ∈ ms, key < m.1) :
    Members.insertNew key v ms = (key, v) :: ms := by
  cases ms with
  | nil => rfl
  | cons a ms => exact if_pos (h a List.mem_cons_self)

theorem sortedItems_eq_map (vs : List Value) : sortedItems vs = vs.map Value.sorted := by
  induction vs with
  | nil => rfl
  | cons v vs ih => rw [sortedItems, ih, List.map_cons]

theorem exists_of_mem_sortedMembers {m : String × Value} (h : m ∈ sortedMembers ms) :
    ∃ a ∈ ms, m = (a.1, a.2.sorted) := by
  induction ms with
  | nil => cases h
  | cons a ms ih =>
    rcases mem_insertNew h with rfl | h
    · exact ⟨a, List.mem_cons_self, rfl⟩
    · obtain ⟨b, hb, hm⟩ := ih h
      exact ⟨b, List.mem_cons_of_mem a hb, hm⟩

theorem sortedMembers_ascending (ms : Members) : (sortedMembers ms).Ascending := by
  induction ms with
  | nil => exact List.Pairwise.nil
  | cons a ms ih => exact ih.insertNew a.1 a.2.sorted

theorem Fits.sorted (h : Fits S n v) : Fits S n v.sorted := by
  induction h with
  | null n => exact .null n
  | bool n b => exact .bool n b
  | number n hx => exact .number n hx
  | string n s => exact .string n s
  | array _ ih =>
    rw [Value.sorted, sortedItems_eq_map]
    refine .array fun w hw => ?_
    obtain ⟨u, hu, rfl⟩ := List.mem_map.1 hw
    exact ih u hu
  | object _ ih =>
    refine .object fun m hm => ?_
    obtain ⟨a, ha, rfl⟩ := exists_of_mem_sortedMembers hm
    exact ih a ha

mutual

theorem Value.sorted_ordered : ∀ v : Value, Ordered v.sorted
  | .null => .null
  | .bool b => .bool b
  | .number x => .number x
  | .string s => .string s
  | .array vs => .array (sortedItems_ordered vs)
  | .object ms => .object (sortedMembers_ordered ms) (sortedMembers_ascending ms)

theorem sortedItems_ordered : ∀ vs : List Value, ∀ v ∈ sortedItems vs, Ordered v
  | [], _, hv => absurd hv List.not_mem_nil
  | v :: vs, w, hw => by
    rcases List.mem_cons.1 hw with rfl | hw
    · exact v.sorted_ordered
    · exact sortedItems_ordered vs w hw

theorem sortedMembers_ordered : ∀ ms : Members, ∀ m ∈ sortedMembers ms, Ordered m.2
  | [], _, hm => absurd hm List.not_mem_nil
  | (_, v) :: ms, m, hm => by
    rcases mem_insertNew hm with rfl | hm
    · exact v.sorted_ordered
    · exact sortedMembers_ordered ms m hm

end

theorem sortedMembers_eq_self (ha : ms.Ascending) (h : ∀ m ∈ ms, m.2.sorted = m.2) :
    sortedMembers ms = ms := by
  induction ms with
  | nil => rfl
  | cons a ms ih =>
    obtain ⟨hlt, ha⟩ := List.pairwise_cons.1 ha
    rw [sortedMembers, ih ha fun m hm => h m (List.mem_cons_of_mem a hm), h a List.mem_cons_self]
    exact insertNew_of_lt hlt

theorem Ordered.sorted_eq (h : Ordered v) : v.sorted = v := by
  induction h with
  | null => rfl
  | bool b => rfl
  | number x => rfl
  | string s => rfl
  | array _ ih =>
    rw [Value.sorted, sortedItems_eq_map, List.map_congr_left ih, List.map_id']
  | object _ ha ih => rw [Value.sorted, sortedMembers_eq_self ha ih]

end DumpWorkbench.Json
