import DumpWorkbench.Proofs.Json.Reread
import DumpWorkbench.SectionMap
import Mathlib

namespace DumpWorkbench.SectionMap

open Json (Fits Occurs Ordered Value maxDepth rereadMembers)

variable {m : SectionMap} {raw : Bytes}

/-- What a report can state: its value nests no deeper than texts may, its numbers are those that
are read, and the members of every object ascend. -/
structure Storable (m : SectionMap) : Prop where
  fits : Fits Json.Number.Stored maxDepth m.value
  ordered : Ordered m.value

theorem ofItems_objects (index : Nat) (ss : List Section) :
    ofItems index (ss.map fun s => .object s.fields) = .ok ss := by
  induction ss generalizing index with
  | nil => rfl
  | cons s ss ih => rw [List.map_cons, ofItems, ih]; rfl

theorem objects_of_ofItems {index : Nat} {items : List Value} {ss : List Section}
    (h : ofItems index items = .ok ss) : items = ss.map fun s => .object s.fields := by
  induction items generalizing index ss with
  | nil =>
    obtain rfl := Except.ok.inj h
    rfl
  | cons v items ih =>
    cases v with
    | object fields =>
      obtain ⟨rest, hrest, rfl⟩ := map_eq_ok.1 h
      rw [ih hrest]
      rfl
    | _ => cases h

theorem ofValue_value (m : SectionMap) : ofValue m.value = .ok m := by
  rw [value, ofValue, ofItems_objects]
  rfl

theorem value_of_ofValue {v : Value} (h : ofValue v = .ok m) : v = m.value := by
  cases v with
  | array items =>
    obtain ⟨ss, hss, rfl⟩ := map_eq_ok.1 h
    rw [objects_of_ofItems hss, value]
  | _ => cases h

theorem storable_of_decode (h : decode raw = .ok m) : m.Storable := by
  unfold decode at h
  split at h
  · rename_i v hv
    -- Decoding drops nothing of the sorted value, which is therefore the value of the map.
    have hvalue := value_of_ofValue h
    exact ⟨hvalue ▸ (Json.read_fits hv).sorted, hvalue ▸ v.sorted_ordered⟩
  · cases h

/-- Every float of the map is read from what is written for it. -/
def Settled (m : SectionMap) : Prop :=
  ∀ x, Occurs (.number (.real x)) m.value →
    Json.read (Utf8.encode (Value.number (.real x)).compact) = .ok (.number (.real x))

/-- The map with every number read again. -/
def reread (m : SectionMap) : SectionMap := ⟨m.sections.map fun s => ⟨rereadMembers s.fields⟩⟩

theorem reread_value (m : SectionMap) : m.reread.value = m.value.reread := by
  rw [value, value, reread, Value.reread, Json.rereadItems_eq_map, List.map_map, List.map_map]
  rfl

theorem value_inj {m' : SectionMap} (h : m.value = m'.value) : m = m' := by
  have hback := ofValue_value m
  rw [h, ofValue_value] at hback
  exact (Except.ok.inj hback).symm

theorem Storable.decode_encode (h : m.Storable) :
    decode (Utf8.encode m.encode) = .ok m.reread := by
  rw [decode, encode, Json.read_compact h.fits]
  dsimp only
  rw [h.ordered.reread.sorted_eq, ← reread_value, ofValue_value]

theorem Storable.reread_eq_iff (h : m.Storable) : m.reread = m ↔ m.Settled := by
  have hread {x : Binary64} (hx : Occurs (.number (.real x)) m.value) :
      Json.read (Utf8.encode (Value.number (.real x)).compact) =
        .ok (.number (Json.Number.real x).reread) :=
    Json.read_compact (.number maxDepth (h.fits.of_occurs hx))
  constructor
  · intro heq x hx
    rw [hread hx, hx.reread_eq (by rw [← reread_value, heq])]
  · intro hm
    apply value_inj
    rw [reread_value]
    refine h.fits.reread_eq fun x hx => ?_
    have hback := (hread hx).symm.trans (hm x hx)
    exact Value.number.inj (Except.ok.inj hback)

/-- A decoded map is decoded from its canonical text, and has that text again, if its floats are
read from what is written for them. The maps that are decoded are those that a report can state. -/
theorem decode_canonical :
    (∀ raw m, decode raw = .ok m → m.Settled →
      decode (Utf8.encode m.encode) = .ok m ∧
      (decode (Utf8.encode m.encode)).map encode = .ok m.encode) ∧
    (∀ m : SectionMap, m.Settled → ((∃ raw, decode raw = .ok m) ↔ m.Storable)) ∧
    ∀ raw m, decode raw = .ok m →
      m.Storable ∧ ∃ m', decode (Utf8.encode m.encode) = .ok m' ∧ (m' = m ↔ m.Settled) := by
  have hback {m : SectionMap} (h : m.Storable) (hm : m.Settled) :
      decode (Utf8.encode m.encode) = .ok m := by
    rw [h.decode_encode, h.reread_eq_iff.2 hm]
  refine ⟨fun raw m h hm => ?_, fun m hm => ?_, fun raw m h => ?_⟩
  · rw [hback (storable_of_decode h) hm]
    exact ⟨rfl, rfl⟩
  · constructor
    · rintro ⟨raw, h⟩
      exact storable_of_decode h
    · intro h
      exact ⟨_, hback h hm⟩
  · have hstorable := storable_of_decode h
    exact ⟨hstorable, _, hstorable.decode_encode, hstorable.reread_eq_iff⟩

/-- A report with spaces, an escape, a key out of order and a key that comes twice, and a map with
the float `-1.5`. -/
theorem decode_canonical_unordered :
    decode (Utf8.encode "[ \x7b\"size\": 4, \"name\":\"\\u0068\", \"size\": -1\x7d ]") =
      .ok ⟨[⟨[("name", .string "h"), ("size", .number (.integer (-1)))]⟩]⟩ ∧
    decode (Utf8.encode (encode ⟨[⟨[("name", .string "h"), ("size", .number (.integer (-1)))]⟩]⟩)) =
      .ok ⟨[⟨[("name", .string "h"), ("size", .number (.integer (-1)))]⟩]⟩ ∧
    (∃ raw, decode raw = .ok ⟨[⟨[("load", .number (.real ⟨true, 3 * 2 ^ 51, -52⟩))]⟩]⟩) ∧
    decode (Utf8.encode (encode ⟨[⟨[("load", .number (.real ⟨true, 3 * 2 ^ 51, -52⟩))]⟩]⟩)) =
      .ok ⟨[⟨[("load", .number (.real ⟨true, 3 * 2 ^ 51, -52⟩))]⟩]⟩ := by
  have hraw : decode (Utf8.encode "[ \x7b\"size\": 4, \"name\":\"\\u0068\", \"size\": -1\x7d ]") =
      .ok ⟨[⟨[("name", .string "h"), ("size", .number (.integer (-1)))]⟩]⟩ := by
    cbv
  have hsettled : Settled ⟨[⟨[("name", .string "h"), ("size", .number (.integer (-1)))]⟩]⟩ := by
    apply (storable_of_decode hraw).reread_eq_iff.1
    cbv
  let m : SectionMap := ⟨[⟨[("load", .number (.real ⟨true, 3 * 2 ^ 51, -52⟩))]⟩]⟩
  have hcanonical : (⟨true, 3 * 2 ^ 51, -52⟩ : Binary64).Canonical :=
    ⟨by decide, by decide, by decide, .inr (by decide)⟩
  have hstorable : m.Storable := by
    constructor
    · refine .array fun v hv => ?_
      obtain rfl := List.mem_singleton.1 hv
      exact .object fun f hf => List.mem_singleton.1 hf ▸ .number _ hcanonical
    · refine .array fun v hv => ?_
      obtain rfl := List.mem_singleton.1 hv
      exact .object (fun f hf => List.mem_singleton.1 hf ▸ .number _) (List.pairwise_singleton _ _)
  have hfloat : m.Settled := by
    apply hstorable.reread_eq_iff.1
    have hreread := Json.Number.reread_real (y := ⟨true, 3 * 2 ^ 51, -52⟩) (by decide +kernel)
    simp only [m, reread, List.map_cons, List.map_nil, rereadMembers, Value.reread, hreread]
  obtain ⟨raw, hload⟩ := (decode_canonical.2.1 m hfloat).2 hstorable
  exact ⟨hraw, (decode_canonical.1 _ _ hraw hsettled).1, ⟨raw, hload⟩,
    (decode_canonical.1 raw m hload hfloat).1⟩

end DumpWorkbench.SectionMap
