import DumpWorkbench.Proofs.Json.Sorted
import Mathlib.Data.List.Sort

namespace DumpWorkbench.Json

variable {key k : String} {u v w : Value} {m : String × Value} {ms ns before after : Members}

namespace Members

def withKey (ms : Members) (key : String) : Members := ms.filter (·.1 = key)

theorem withKey_cons_self (key : String) (v : Value) (ms : Members) :
    withKey ((key, v) :: ms) key = (key, v) :: withKey ms key := by
  simp [withKey]

theorem withKey_cons_of_ne (h : k ≠ key) (v : Value) (ms : Members) :
    withKey ((k, v) :: ms) key = withKey ms key := by
  simp [withKey, h]

theorem withKey_append (ms ns : Members) (key : String) :
    withKey (ms ++ ns) key = withKey ms key ++ withKey ns key :=
  List.filter_append ..

theorem withKey_ne_nil_iff : withKey ms key ≠ [] ↔ key ∈ ms.map Prod.fst := by
  induction ms with
  | nil => simp [withKey]
  | cons m ms ih =>
    obtain ⟨k, v⟩ := m
    by_cases h : k = key
    · subst h
      simp [withKey_cons_self]
    · rw [withKey_cons_of_ne h, ih, List.map_cons, List.mem_cons]
      simp [Ne.symm h]

end Members

open Members (withKey withKey_append withKey_cons_of_ne withKey_cons_self withKey_ne_nil_iff)

/-- Values that say the same. Members may be moved past members with other keys, and a member whose
key comes again later does not count; both hold at every depth. -/
inductive Alike : Value → Value → Prop
  | refl (v : Value) : Alike v v
  | symm {v w : Value} (h : Alike v w) : Alike w v
  | trans {u v w : Value} (h : Alike u v) (h' : Alike v w) : Alike u w
  | reorder {ms ns : Members} (h : ∀ key, withKey ms key = withKey ns key) :
      Alike (.object ms) (.object ns)
  | shadow {before after : Members} {key : String} (v : Value) (h : key ∈ after.map Prod.fst) :
      Alike (.object (before ++ (key, v) :: after)) (.object (before ++ after))
  | item {v w : Value} (before after : List Value) (h : Alike v w) :
      Alike (.array (before ++ v :: after)) (.array (before ++ w :: after))
  | member {v w : Value} (before after : Members) (key : String) (h : Alike v w) :
      Alike (.object (before ++ (key, v) :: after)) (.object (before ++ (key, w) :: after))

theorem mem_insertNew_iff (ha : ms.Ascending) : m ∈ Members.insertNew key v ms ↔
    m ∈ ms ∨ (m = (key, v) ∧ key ∉ ms.map Prod.fst) := by
  induction ms with
  | nil => simp [Members.insertNew]
  | cons a ms ih =>
    obtain ⟨k, w⟩ := a
    obtain ⟨hlt, hms⟩ := List.pairwise_cons.1 ha
    unfold Members.insertNew
    split_ifs with hbefore heq
    · -- All keys of the list are greater than the new one.
      have hfresh : key ∉ ((k, w) :: ms).map Prod.fst := by
        intro hmem
        obtain ⟨b, hb, rfl⟩ := List.mem_map.1 hmem
        rcases List.mem_cons.1 hb with rfl | hb
        · exact lt_irrefl _ hbefore
        · exact lt_asymm hbefore (hlt b hb)
      rw [List.mem_cons]
      tauto
    · simp [heq]
    · rw [List.mem_cons, List.mem_cons, ih hms, List.map_cons, List.mem_cons]
      tauto

theorem key_mem_insertNew : key ∈ (Members.insertNew k v ms).map Prod.fst ↔
    key = k ∨ key ∈ ms.map Prod.fst := by
  induction ms with
  | nil => simp [Members.insertNew]
  | cons a ms ih =>
    obtain ⟨l, w⟩ := a
    unfold Members.insertNew
    split_ifs with hbefore heq
    · simp
    · subst heq
      simp
    · simp only [List.map_cons, List.mem_cons, ih]
      tauto

theorem key_mem_sortedMembers : key ∈ (sortedMembers ms).map Prod.fst ↔ key ∈ ms.map Prod.fst := by
  induction ms with
  | nil => rfl
  | cons a ms ih =>
    obtain ⟨k, v⟩ := a
    rw [sortedMembers, key_mem_insertNew, ih, List.map_cons, List.mem_cons]

/-- Of the members with one key the last is kept. -/
theorem mem_sortedMembers_iff : m ∈ sortedMembers ms ↔
    ∃ a, (withKey ms m.1).getLast? = some a ∧ m = (a.1, a.2.sorted) := by
  induction ms with
  | nil => simp [sortedMembers, withKey]
  | cons a ms ih =>
    obtain ⟨k, v⟩ := a
    rw [sortedMembers, mem_insertNew_iff (sortedMembers_ascending ms), ih, key_mem_sortedMembers,
      ← withKey_ne_nil_iff]
    by_cases hk : k = m.1
    · subst hk
      rw [withKey_cons_self, List.getLast?_cons]
      cases hlast : (withKey ms m.1).getLast? with
      | none => simp [List.getLast?_eq_none_iff.1 hlast]
      | some a =>
        have hne : withKey ms m.1 ≠ [] := by
          intro hnil
          rw [hnil] at hlast
          cases hlast
        simp [hne]
    · rw [withKey_cons_of_ne hk]
      have hne : m ≠ (k, v.sorted) := fun h => hk (congrArg Prod.fst h).symm
      simp [hne]

theorem sortedMembers_congr
    (h : ∀ key, (withKey ms key).getLast? = (withKey ns key).getLast?) :
    sortedMembers ms = sortedMembers ns := by
  have hirrefl : Std.Irrefl fun a b : String × Value => a.1 < b.1 := ⟨fun a => lt_irrefl a.1⟩
  have hantisymm : Std.Antisymm fun a b : String × Value => a.1 < b.1 :=
    ⟨fun a b hab hba => absurd hba (lt_asymm hab)⟩
  apply List.Pairwise.eq_of_mem_iff (sortedMembers_ascending ms) (sortedMembers_ascending ns)
  intro m
  rw [mem_sortedMembers_iff, mem_sortedMembers_iff, h]

theorem sortedMembers_shadow (h : key ∈ after.map Prod.fst) :
    sortedMembers (before ++ (key, v) :: after) = sortedMembers (before ++ after) := by
  apply sortedMembers_congr
  intro k
  rw [withKey_append, withKey_append, List.getLast?_append, List.getLast?_append]
  by_cases hk : key = k
  · subst hk
    obtain ⟨a, as, has⟩ := List.exists_cons_of_ne_nil (withKey_ne_nil_iff.2 h)
    rw [withKey_cons_self, has, List.getLast?_cons_cons]
  · rw [withKey_cons_of_ne hk]

theorem sortedMembers_member (h : v.sorted = w.sorted) (before after : Members) (key : String) :
    sortedMembers (before ++ (key, v) :: after) = sortedMembers (before ++ (key, w) :: after) := by
  induction before with
  | nil => rw [List.nil_append, List.nil_append, sortedMembers, sortedMembers, h]
  | cons b before ih =>
    obtain ⟨k, u⟩ := b
    rw [List.cons_append, List.cons_append, sortedMembers, sortedMembers, ih]

theorem Alike.sorted_eq (h : Alike v w) : v.sorted = w.sorted := by
  induction h with
  | refl v => rfl
  | symm _ ih => exact ih.symm
  | trans _ _ ih ih' => exact ih.trans ih'
  | reorder h =>
    have hmembers := sortedMembers_congr fun key => congrArg List.getLast? (h key)
    rw [Value.sorted, Value.sorted, hmembers]
  | shadow v h => rw [Value.sorted, Value.sorted, sortedMembers_shadow h]
  | item before after _ ih =>
    rw [Value.sorted, Value.sorted, sortedItems_eq_map, sortedItems_eq_map]
    simp [ih]
  | member before after key _ ih =>
    rw [Value.sorted, Value.sorted, sortedMembers_member ih]

theorem get?_nil (k : String) : Members.get? [] k = none := rfl

theorem get?_cons (m : String × Value) (ms : Members) (k : String) :
    Members.get? (m :: ms) k = if k = m.1 then some m.2 else ms.get? k := by
  unfold Members.get?
  rw [List.lookup_cons]
  by_cases hk : k = m.1
  · simp [hk]
  · simp [hk, beq_eq_false_iff_ne.2 hk]

theorem get?_insertNew (h : key ∉ ms.map Prod.fst) (k : String) :
    (Members.insertNew key v ms).get? k = if k = key then some v else ms.get? k := by
  induction ms with
  | nil => exact get?_cons (key, v) [] k
  | cons a ms ih =>
    rw [List.map_cons, List.mem_cons, not_or] at h
    unfold Members.insertNew
    split
    · exact get?_cons (key, v) _ k
    · rw [if_neg h.1, get?_cons, get?_cons, ih h.2]
      by_cases hk : k = a.1
      · have hne : k ≠ key := fun heq => h.1 (heq.symm.trans hk)
        rw [if_pos hk, if_pos hk, if_neg hne]
      · rw [if_neg hk, if_neg hk]

theorem get?_sortedMembers (h : (ms.map Prod.fst).Nodup) (k : String) :
    (sortedMembers ms).get? k = (ms.get? k).map Value.sorted := by
  induction ms with
  | nil => rfl
  | cons a ms ih =>
    obtain ⟨hkey, hms⟩ := List.nodup_cons.1 h
    have hsorted : sortedMembers (a :: ms) =
      Members.insertNew a.1 a.2.sorted (sortedMembers ms) := rfl
    rw [hsorted, get?_insertNew (key_mem_sortedMembers.not.2 hkey), ih hms, get?_cons]
    split <;> rfl

/-- Members with different keys may be put in any order. -/
theorem withKey_of_perm (h : ms.Perm ns) (hkeys : (ms.map Prod.fst).Nodup) (key : String) :
    withKey ms key = withKey ns key := by
  induction h with
  | nil => rfl
  | cons m _ ih =>
    obtain ⟨k, v⟩ := m
    have hrest := ih (List.nodup_cons.1 hkeys).2
    by_cases hk : k = key
    · subst hk
      rw [withKey_cons_self, withKey_cons_self, hrest]
    · rw [withKey_cons_of_ne hk, withKey_cons_of_ne hk, hrest]
  | swap a b ms =>
    obtain ⟨k, v⟩ := a
    obtain ⟨l, w⟩ := b
    have hne : k ≠ l := by
      rintro rfl
      simp at hkeys
    by_cases hk : k = key
    · subst hk
      rw [withKey_cons_of_ne hne.symm, withKey_cons_self, withKey_cons_self,
        withKey_cons_of_ne hne.symm]
    · rw [withKey_cons_of_ne hk]
      by_cases hl : l = key
      · subst hl
        rw [withKey_cons_self, withKey_cons_self, withKey_cons_of_ne hk]
      · rw [withKey_cons_of_ne hl, withKey_cons_of_ne hl, withKey_cons_of_ne hk]
  | trans h _ ih ih' =>
    have hperm := h.map Prod.fst
    rw [ih hkeys, ih' (hperm.nodup_iff.1 hkeys)]

theorem sortedMembers_of_perm (h : ms.Perm ns) (hkeys : (ms.map Prod.fst).Nodup) :
    sortedMembers ms = sortedMembers ns :=
  sortedMembers_congr fun key => congrArg List.getLast? (withKey_of_perm h hkeys key)

/-- A member goes to its place past members with other keys, or is shadowed. -/
theorem alike_insertNew (before : Members) (key : String) (v : Value) (ms : Members) :
    Alike (.object (before ++ (key, v) :: ms))
      (.object (before ++ Members.insertNew key v ms)) := by
  induction ms generalizing before with
  | nil => exact .refl _
  | cons a ms ih =>
    obtain ⟨k, w⟩ := a
    unfold Members.insertNew
    split_ifs with hbefore heq
    · exact .refl _
    · exact .shadow v (by simp [heq])
    · have hswap : Alike (.object (before ++ (key, v) :: (k, w) :: ms))
          (.object (before ++ (k, w) :: (key, v) :: ms)) := by
        apply Alike.reorder
        intro l
        rw [withKey_append, withKey_append]
        by_cases hk : key = l
        · subst hk
          rw [withKey_cons_self, withKey_cons_of_ne (Ne.symm heq), withKey_cons_of_ne (Ne.symm heq),
            withKey_cons_self]
        · rw [withKey_cons_of_ne hk]
          by_cases hl : k = l
          · subst hl
            rw [withKey_cons_self, withKey_cons_self, withKey_cons_of_ne hk]
          · rw [withKey_cons_of_ne hl, withKey_cons_of_ne hl, withKey_cons_of_ne hk]
      have hrest := ih (before ++ [(k, w)])
      simp only [List.append_assoc, List.singleton_append] at hrest
      exact hswap.trans hrest

mutual

theorem Value.alike_sorted : ∀ v : Value, Alike v v.sorted
  | .null => .refl _
  | .bool _ => .refl _
  | .number _ => .refl _
  | .string _ => .refl _
  | .array vs => items_alike [] vs
  | .object ms => members_alike [] ms

theorem items_alike : ∀ before vs : List Value,
    Alike (.array (before ++ vs)) (.array (before ++ sortedItems vs))
  | _, [] => .refl _
  | before, v :: vs => by
    have hrest := items_alike (before ++ [v.sorted]) vs
    simp only [List.append_assoc, List.singleton_append] at hrest
    exact (Alike.item before vs v.alike_sorted).trans hrest

theorem members_alike : ∀ before ms : Members,
    Alike (.object (before ++ ms)) (.object (before ++ sortedMembers ms))
  | _, [] => .refl _
  | before, (key, v) :: ms => by
    have hrest := members_alike (before ++ [(key, v)]) ms
    simp only [List.append_assoc, List.singleton_append] at hrest
    have hvalue := Alike.member before (sortedMembers ms) key v.alike_sorted
    exact (hrest.trans hvalue).trans (alike_insertNew before key v.sorted (sortedMembers ms))

end

/-- Two values say the same if and only if they are sorted to the same. -/
theorem alike_iff : Alike v w ↔ v.sorted = w.sorted := by
  constructor
  · exact Alike.sorted_eq
  · intro h
    exact v.alike_sorted.trans (h ▸ w.alike_sorted.symm)

/-- The value stands in the other one, at some depth. -/
inductive Occurs (u : Value) : Value → Prop
  | self : Occurs u u
  | item {v : Value} {vs : List Value} (hv : v ∈ vs) (h : Occurs u v) : Occurs u (.array vs)
  | member {m : String × Value} {ms : Members} (hm : m ∈ ms) (h : Occurs u m.2) :
    Occurs u (.object ms)

theorem Ordered.of_occurs (hv : Ordered v) (h : Occurs u v) : Ordered u := by
  induction h with
  | self => exact hv
  | item hmem _ ih =>
    cases hv with
    | array hvs => exact ih (hvs _ hmem)
  | member hmem _ ih =>
    cases hv with
    | object hms _ => exact ih (hms _ hmem)

end DumpWorkbench.Json
