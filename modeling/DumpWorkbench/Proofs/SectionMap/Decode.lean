import DumpWorkbench.Fault
import DumpWorkbench.Proofs.Json.Document
import DumpWorkbench.Proofs.SectionMap.RoundTrip

namespace DumpWorkbench.SectionMap

open Json (Document Members Numeral Value sortedItems sortedMembers)

open Utf8 (encodeChars)

variable {m : SectionMap} {raw : Bytes} {v item : Value}

theorem kind_sorted (v : Value) : v.sorted.kind = v.kind := by
  cases v <;> rfl

theorem sortedItems_objects (objects : List Members) :
    sortedItems (objects.map .object) = (objects.map sortedMembers).map .object := by
  rw [Json.sortedItems_eq_map, List.map_map, List.map_map]
  exact List.map_congr_left fun ms _ => by rw [Function.comp_apply, Value.sorted]; rfl

theorem exists_objects {items : List Value} {fields : List Members}
    (h : sortedItems items = fields.map .object) :
    ∃ objects : List Members, items = objects.map .object ∧ objects.map sortedMembers = fields := by
  induction items generalizing fields with
  | nil =>
    cases fields with
    | nil => exact ⟨[], rfl, rfl⟩
    | cons f fields => cases h
  | cons v items ih =>
    cases fields with
    | nil => cases h
    | cons f fields =>
      obtain ⟨hv, hitems⟩ := List.cons.inj h
      obtain ⟨objects, rfl, rfl⟩ := ih hitems
      cases v with
      | object ms =>
        obtain rfl := Value.object.inj hv
        exact ⟨ms :: objects, rfl, rfl⟩
      | _ => cases hv

theorem value_eq (m : SectionMap) :
    m.value = .array ((m.sections.map (·.fields)).map .object) := by
  rw [value, List.map_map]
  rfl

theorem sorted_eq_value_iff :
    v.sorted = m.value ↔ ∃ objects : List Members, v = .array (objects.map .object) ∧
      m.sections.map (·.fields) = objects.map sortedMembers := by
  rw [value_eq]
  constructor
  · intro h
    cases v with
    | array items =>
      obtain ⟨objects, rfl, hfields⟩ := exists_objects (Value.array.inj h)
      exact ⟨objects, rfl, hfields.symm⟩
    | _ => cases h
  · rintro ⟨objects, rfl, hfields⟩
    rw [hfields, Value.sorted, sortedItems_objects]

theorem ofItems_first {before : List Members} {after : List Value} (index : Nat)
    (hitem : ∀ ms, item ≠ .object ms) :
    ofItems index (before.map .object ++ item :: after) =
      .error (.notObject (index + before.length) item) := by
  induction before generalizing index with
  | nil =>
    cases item with
    | object ms => exact absurd rfl (hitem ms)
    | _ => rfl
  | cons b before ih =>
    rw [List.map_cons, List.cons_append, ofItems, ih, List.length_cons, Nat.add_right_comm,
      Nat.add_assoc]
    rfl

theorem decode_of_document (h : Document (Numeral.Denotes .quick) v raw) :
    decode raw = ofValue v.sorted := by
  rw [decode, Json.read_eq_ok.2 h]

theorem decode_eq_ok : decode raw = .ok m ↔ ∃ objects : List Members,
    Document (Numeral.Denotes .quick) (.array (objects.map .object)) raw ∧
      m.sections.map (·.fields) = objects.map sortedMembers := by
  constructor
  · intro h
    unfold decode at h
    split at h
    · rename_i v hv
      obtain ⟨objects, rfl, hfields⟩ := sorted_eq_value_iff.1 (value_of_ofValue h)
      exact ⟨objects, Json.read_eq_ok.1 hv, hfields⟩
    · cases h
  · rintro ⟨objects, h, hfields⟩
    rw [decode_of_document h, sorted_eq_value_iff.2 ⟨objects, rfl, hfields⟩, ofValue_value]

theorem malformed_of_ofItems {items : List Value} {index : Nat} {e : Refusal}
    (h : ofItems index items = .error e) :
    ∃ message, Fault.ofRefusal e = .malformed Fault.reportContext message := by
  induction items generalizing index with
  | nil => cases h
  | cons v items ih =>
    cases v with
    | object ms =>
      cases hrest : ofItems (index + 1) items with
      | ok ss =>
        rw [ofItems, hrest] at h
        cases h
      | error e' =>
        rw [ofItems, hrest] at h
        obtain rfl := Except.error.inj h
        exact ih hrest
    | _ =>
      obtain rfl := Except.error.inj h
      exact ⟨_, rfl⟩

/-- What a text that can be read is refused for is its shape. -/
theorem malformed_of_ofValue {e : Refusal} (h : ofValue v = .error e) :
    ∃ message, Fault.ofRefusal e = .malformed Fault.reportContext message := by
  cases v with
  | array items =>
    cases hitems : ofItems 0 items with
    | ok ss =>
      rw [ofValue, hitems] at h
      cases h
    | error e' =>
      rw [ofValue, hitems] at h
      obtain rfl := Except.error.inj h
      exact malformed_of_ofItems hitems
  | _ =>
    obtain rfl := Except.error.inj h
    exact ⟨_, rfl⟩

theorem unreadable_iff :
    (∃ cause, (decode raw).mapError Fault.ofRefusal =
      .error (.unreadable Fault.reportContext cause)) ↔
    ¬ ∃ v, Document (Numeral.Denotes .quick) v raw := by
  constructor
  · rintro ⟨cause, h⟩ ⟨v, hv⟩
    rw [decode_of_document hv] at h
    -- What can be read is refused for its shape only.
    cases hshape : ofValue v.sorted with
    | ok m =>
      rw [hshape] at h
      cases h
    | error e =>
      obtain ⟨message, hmessage⟩ := malformed_of_ofValue hshape
      rw [hshape, Except.mapError, hmessage] at h
      cases h
  · intro hnone
    cases hread : Json.read raw with
    | ok v => exact absurd ⟨v, Json.read_eq_ok.1 hread⟩ hnone
    | error e =>
      rw [decode, hread]
      exact ⟨e, rfl⟩

theorem decode_not_array (h : Document (Numeral.Denotes .quick) v raw)
    (hv : ∀ items, v ≠ .array items) :
    decode raw = .error (.notArray v.sorted) := by
  rw [decode_of_document h]
  cases v with
  | array items => exact absurd rfl (hv items)
  | _ => rfl

theorem decode_not_object {before : List Members} {after : List Value}
    (h : Document (Numeral.Denotes .quick) (.array (before.map .object ++ item :: after)) raw)
    (hitem : ∀ ms, item ≠ .object ms) :
    decode raw = .error (.notObject before.length item.sorted) := by
  -- Sorting the keys moves no item and makes no object of one.
  have hsorted : ∀ ms, item.sorted ≠ .object ms := by
    intro ms hms
    cases item with
    | object fields => exact hitem fields rfl
    | _ => cases hms
  have hitems : sortedItems (before.map .object ++ item :: after) =
      (before.map sortedMembers).map .object ++ item.sorted :: sortedItems after := by
    rw [Json.sortedItems_eq_map, List.map_append, List.map_cons, ← Json.sortedItems_eq_map,
      ← Json.sortedItems_eq_map, sortedItems_objects]
  have hfirst : ofItems 0 (sortedItems (before.map .object ++ item :: after)) =
      .error (.notObject before.length item.sorted) := by
    rw [hitems, ofItems_first 0 hsorted, List.length_map, Nat.zero_add]
  rw [decode_of_document h, Value.sorted, ofValue, hfirst]
  rfl

/-- A report is taken if and only if it is a text that holds one array of objects and nothing else,
and the map has a section for each of them in their order. What is no such text at all is
unreadable, whatever its shape. A text of another shape is malformed, and told by the kind of its
value if that is no array, and else by the first item that is no object.

A number of a text is an integer of 64 bits or has to be finite as the reader takes it: its first
digits and its power of ten, each rounded to a double, have a product in the range of the doubles.
That differs from the range of the doubles by less than one part in `2^51`. What is read of digits
of 53 bits with a power of ten up to the 22nd is the nearest double. -/
theorem decode_classifies (raw : Bytes) :
    (∀ m, (decode raw).mapError Fault.ofRefusal = .ok m ↔ ∃ objects : List Members,
      Document (Numeral.Denotes .quick) (.array (objects.map .object)) raw ∧
        m.sections.map (·.fields) = objects.map sortedMembers) ∧
    ((∃ cause, (decode raw).mapError Fault.ofRefusal =
      .error (.unreadable Fault.reportContext cause)) ↔
        ¬ ∃ v, Document (Numeral.Denotes .quick) v raw) ∧
    (∀ v, Document (Numeral.Denotes .quick) v raw → (∀ items, v ≠ .array items) →
      (decode raw).mapError Fault.ofRefusal =
        .error (.malformed Fault.reportContext s!"expected a JSON array, found {v.kind}")) ∧
    (∀ (before : List Members) (item : Value) (after : List Value),
      Document (Numeral.Denotes .quick) (.array (before.map .object ++ item :: after)) raw →
      (∀ ms, item ≠ .object ms) →
      (decode raw).mapError Fault.ofRefusal = .error (.malformed Fault.reportContext
        s!"section {before.length} is {item.kind}, not an object")) ∧
    ∀ x : Numeral,
      ((∃ n, x.Denotes .quick n) ↔ x.Finite ∧ (x.first.digits ≠ 0 → x.power < 2 ^ 31)) ∧
      (x.chars.length + 310 ≤ 2 ^ 31 → x.Finite → x.first.digits ≠ 0 → x.power < 2 ^ 31) ∧
      (x.decimal.toRat * (1 + 1 / 2 ^ 51) ≤ Binary64.bound → x.Finite) ∧
      (x.Finite → x.decimal.toRat < Binary64.bound * (1 + 1 / 2 ^ 51)) ∧
      ∀ y, x.Denotes .quick (.real y) → x.significand < 2 ^ 53 →
        x.decimal.exponent.natAbs ≤ 22 → y.Nearest x.decimal.toRat := by
  refine ⟨fun m => ?_, unreadable_iff, fun v hv hkind => ?_, fun before item after hv hitem => ?_,
    fun x => ⟨x.exists_denotes_iff, fun hlen h => h.power_lt hlen, Numeral.finite_of_le,
      Numeral.Finite.lt, fun y => Numeral.Denotes.nearest⟩⟩
  · rw [← decode_eq_ok]
    cases decode raw <;> simp [Except.mapError]
  · rw [decode_not_array hv hkind, Except.mapError, Fault.ofRefusal, kind_sorted]
  · rw [decode_not_object hv hitem, Except.mapError, Fault.ofRefusal, kind_sorted]

/-- An object where an array should stand, and a string behind two objects. -/
theorem decode_classifies_mixed :
    (Document (Numeral.Denotes .quick) (.object []) (Utf8.encode " \x7b\x7d\n") ∧
      (decode (Utf8.encode " \x7b\x7d\n")).mapError Fault.ofRefusal = .error
        (.malformed "radare2 section report" "expected a JSON array, found an object")) ∧
    Document (Numeral.Denotes .quick)
      (.array ([[], [("a", .number (.integer 1))]].map .object ++ .string "x" :: []))
      (Utf8.encode "[\x7b\x7d, \x7b\"a\": 1\x7d, \"x\"]") ∧
    (decode (Utf8.encode "[\x7b\x7d, \x7b\"a\": 1\x7d, \"x\"]")).mapError Fault.ofRefusal =
      .error (.malformed "radare2 section report" "section 2 is a string, not an object") := by
  have hobject : Document (Numeral.Denotes .quick) (.object []) (Utf8.encode " \x7b\x7d\n") :=
    Json.document_eq_ok.1 (by cbv)
  have hmixed : Document (Numeral.Denotes .quick)
      (.array ([[], [("a", .number (.integer 1))]].map .object ++ .string "x" :: []))
      (Utf8.encode "[\x7b\x7d, \x7b\"a\": 1\x7d, \"x\"]") :=
    Json.document_eq_ok.1 (by cbv)
  have harray : ∀ items : List Value, Value.object [] ≠ .array items := by
    intro items h
    cases h
  have hstring : ∀ ms : Members, Value.string "x" ≠ .object ms := by
    intro ms h
    cases h
  exact ⟨⟨hobject, (decode_classifies _).2.2.1 _ hobject harray⟩, hmixed,
    (decode_classifies _).2.2.2.1 _ _ _ hmixed hstring⟩

def powered (d e : Nat) (hd : 0 < d) : Numeral where
  negative := false
  whole := Nat.toDigits 10 d
  fraction := []
  exponent := some ⟨'e', .none, Nat.toDigits 10 e, .inl rfl, Json.isDigit_of_toDigits e,
    Nat.toDigits_ne_nil⟩
  leading := Json.leading_toDigits hd
  isDigit := List.forall_mem_nil _

theorem powered_toRat {d e : Nat} (hd : 0 < d) :
    (powered d e hd).decimal.toRat = (d * 10 ^ e : Nat) := by
  simp [Decimal.toRat, Numeral.decimal, Numeral.significand, Numeral.power, powered,
    Json.Exponent.value, Nat.ofDigitChars_ten_toDigits]

def single (x : Numeral) : Bytes :=
  Utf8.encode "[\x7b\"a\":" ++ encodeChars x.chars ++ Utf8.encode "\x7d]"

theorem document_single {A : Numeral → Json.Number → Prop} {x : Numeral} {n : Json.Number}
    (h : A x n) :
    Document A (.array (([[("a", .number n)]] : List Members).map .object)) (single x) := by
  have hnumber : Json.Text A 125 (.number n) (encodeChars x.chars) := .inl (.number h)
  have hmember := Json.Member.mk (Json.quoted_quote "a") Json.blank_nil Json.blank_nil hnumber
  have hobject : Json.Text A 126 (.object [("a", .number n)]) _ :=
    .inr (.object (.some (.one (Json.padded_bare hmember))))
  have harray : Json.Text A 127 (.array [.object [("a", .number n)]]) _ :=
    .inr (.array (.some (.one (Json.padded_bare hobject))))
  have hhead : Utf8.encode "[\x7b\"a\":" =
      [0x5B, 0x7B] ++ encodeChars (Json.quote "a") ++ [0x3A] := by decide
  have htail : Utf8.encode "\x7d]" = [0x7D, 0x5D] := by decide
  rw [single, hhead, htail]
  simpa [Document] using Json.padded_bare harray

/-- A number below the greatest double is refused, and one beyond the doubles is taken. -/
theorem decode_not_by_range :
    ((∃ objects : List Members,
        Document (fun x _ => x.decimal.toRat ≤ (2 ^ 53 - 1) * 2 ^ 971)
          (.array (objects.map .object))
          (Utf8.encode "[\x7b\"a\":1797693134862315684e290\x7d]")) ∧
      ∃ cause, (decode (Utf8.encode "[\x7b\"a\":1797693134862315684e290\x7d]")).mapError
        Fault.ofRefusal = .error (.unreadable Fault.reportContext cause)) ∧
    ∃ x : Numeral, Binary64.bound < x.decimal.toRat ∧
      single x = Utf8.encode "[\x7b\"a\":179769313486231595e291\x7d]" ∧
      ∃ m, decode (Utf8.encode "[\x7b\"a\":179769313486231595e291\x7d]") = .ok m := by
  constructor
  · have hnat : 1797693134862315684 * 10 ^ 290 ≤ (2 ^ 53 - 1) * 2 ^ 971 := by decide +kernel
    have hcast := (Nat.cast_le (α := ℚ)).2 hnat
    rw [Nat.cast_mul _ (2 ^ 971), Nat.cast_sub (by norm_num), Nat.cast_pow, Nat.cast_pow] at hcast
    have hrange : (powered 1797693134862315684 290 (by decide)).decimal.toRat ≤
        (2 ^ 53 - 1) * 2 ^ 971 := (powered_toRat _).trans_le hcast
    have hsingle : single (powered 1797693134862315684 290 (by decide)) =
        Utf8.encode "[\x7b\"a\":1797693134862315684e290\x7d]" := by decide +kernel
    have hread :
        (Json.read (Utf8.encode "[\x7b\"a\":1797693134862315684e290\x7d]")).isOk = false := by
      decide +kernel
    refine ⟨⟨_, hsingle ▸ document_single (n := .integer 0) hrange⟩, ?_⟩
    generalize Utf8.encode "[\x7b\"a\":1797693134862315684e290\x7d]" = raw at *
    cases h : Json.read raw with
    | ok v =>
      rw [h] at hread
      cases hread
    | error e =>
      rw [decode, h]
      exact ⟨e, rfl⟩
  · have hnat : (2 ^ 54 - 1) * 2 ^ 970 < 179769313486231595 * 10 ^ 291 := by decide +kernel
    have hrange : Binary64.bound < (powered 179769313486231595 291 (by decide)).decimal.toRat := by
      rw [powered_toRat, Binary64.bound_eq_natCast]
      exact Nat.cast_lt.2 hnat
    have hok : (decode (Utf8.encode "[\x7b\"a\":179769313486231595e291\x7d]")).isOk = true := by
      decide +kernel
    refine ⟨_, hrange, by decide +kernel, ?_⟩
    generalize Utf8.encode "[\x7b\"a\":179769313486231595e291\x7d]" = raw at *
    cases h : decode raw with
    | ok m => exact ⟨m, rfl⟩
    | error e =>
      rw [h] at hok
      cases hok

end DumpWorkbench.SectionMap
