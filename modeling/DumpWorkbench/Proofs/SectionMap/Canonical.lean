import DumpWorkbench.Proofs.Json.Alike
import DumpWorkbench.Proofs.Json.Unquoted
import DumpWorkbench.Proofs.SectionMap.Decode
import DumpWorkbench.Proofs.Text.Order

namespace DumpWorkbench.SectionMap

open Json (Alike Document Numeral Occurs Value isSpace unquoted)

variable {m m' : SectionMap} {raw raw' : Bytes} {v w : Value}

theorem sorted_of_decode (h : decode raw = .ok m) (hv : Document (Numeral.Denotes .quick) v raw) :
    v.sorted = m.value := by
  rw [decode_of_document hv] at h
  exact value_of_ofValue h

theorem exists_document (h : decode raw = .ok m) :
    ∃! v, Document (Numeral.Denotes .quick) v raw := by
  obtain ⟨objects, hv, -⟩ := decode_eq_ok.1 h
  refine ⟨_, hv, ?_⟩
  intro w hw
  have hread := Json.read_eq_ok.2 hw
  rw [Json.read_eq_ok.2 hv] at hread
  exact (Except.ok.inj hread).symm

theorem decode_congr (hv : Document (Numeral.Denotes .quick) v raw)
    (hw : Document (Numeral.Denotes .quick) w raw')
    (h : Alike v w) : decode raw = decode raw' := by
  rw [decode_of_document hv, decode_of_document hw, h.sorted_eq]

theorem alike_of_decode (hm : decode raw = .ok m) (hm' : decode raw' = .ok m)
    (hv : Document (Numeral.Denotes .quick) v raw) (hw : Document (Numeral.Denotes .quick) w raw') :
    Alike v w := by
  rw [Json.alike_iff, sorted_of_decode hm hv, sorted_of_decode hm' hw]

theorem encode_inj (hm : decode raw = .ok m) (hm' : decode raw' = .ok m')
    (h : m.encode = m'.encode) : m = m' :=
  value_inj (Json.compact_inj (storable_of_decode hm).fits (storable_of_decode hm').fits h)

theorem tight_encode (h : m.Storable) : Json.Tight (Utf8.encode m.encode) := by
  rw [encode, Utf8.encode, Value.compact, String.toList_ofList]
  exact Json.tight_compact h.fits

theorem document_encode (h : m.Storable) :
    Document (Numeral.Denotes .quick) m.reread.value (Utf8.encode m.encode) := by
  rw [reread_value]
  exact Json.read_eq_ok.1 (Json.read_compact h.fits)

theorem keys_ascend (h : m.Storable) {ms : Json.Members}
    (hms : Occurs (.object ms) m.reread.value) :
    (ms.map fun a => Utf8.encode a.1).Pairwise (· < ·) := by
  rw [reread_value] at hms
  cases h.ordered.reread.of_occurs hms with
  | object _ ha =>
    rw [List.pairwise_map]
    exact ha.imp fun hlt => Utf8.encode_lt_iff.2 hlt

/-- Two texts whose values say the same are decoded to the same map, or refused for the same reason.
Two reports that are decoded have one map, and one canonical text, if and only if they say the same.
The canonical text has no blank outside of its strings, and in every object in it, at every depth,
the bytes of the keys ascend. -/
theorem canonical_form :
    (∀ raw raw' v w,
      Document (Numeral.Denotes .quick) v raw → Document (Numeral.Denotes .quick) w raw' →
      Alike v w → decode raw = decode raw') ∧
    (∀ raw raw' m m' v w, decode raw = .ok m → decode raw' = .ok m' →
      Document (Numeral.Denotes .quick) v raw → Document (Numeral.Denotes .quick) w raw' →
      (Alike v w ↔ m = m') ∧ (Alike v w ↔ m.encode = m'.encode)) ∧
    ∀ raw m, decode raw = .ok m →
      (∃! v, Document (Numeral.Denotes .quick) v raw) ∧
      (∀ b ∈ unquoted .outside (Utf8.encode m.encode), isSpace b = false) ∧
      ∃! v, Document (Numeral.Denotes .quick) v (Utf8.encode m.encode) ∧
        ∀ ms, Occurs (.object ms) v → (ms.map fun a => Utf8.encode a.1).Pairwise (· < ·) := by
  refine ⟨fun raw raw' v w hv hw h => decode_congr hv hw h, ?_, ?_⟩
  · intro raw raw' m m' v w hm hm' hv hw
    have heq : Alike v w → m = m' := by
      intro h
      have hdecode := decode_congr hv hw h
      rw [hm, hm'] at hdecode
      exact Except.ok.inj hdecode
    have halike : m = m' → Alike v w := by
      rintro rfl
      exact alike_of_decode hm hm' hv hw
    refine ⟨⟨heq, halike⟩, ?_⟩
    constructor
    · intro h
      rw [heq h]
    · intro h
      exact halike (encode_inj hm hm' h)
  · intro raw m hm
    have hstorable := storable_of_decode hm
    refine ⟨exists_document hm, (tight_encode hstorable).no_blank, m.reread.value, ?_, ?_⟩
    · exact ⟨document_encode hstorable, fun ms hms => keys_ascend hstorable hms⟩
    · rintro w ⟨hw, -⟩
      have hback := hstorable.decode_encode
      exact (exists_document hback).unique hw (document_encode hstorable)

/-- Two reports of one section: with blanks, an escape, keys out of order and a key that comes
twice, and without. -/
theorem canonical_form_respelled :
    decode (Utf8.encode
      "[ \x7b\"x\": \x7b\"d\":1, \"c\":2\x7d, \"n\": 7,\n\"n\": \"\\u0068\"\x7d ]") =
        .ok ⟨[⟨[("n", .string "h"), ("x", .object [("c", .ofNat 2), ("d", .ofNat 1)])]⟩]⟩ ∧
    decode (Utf8.encode "[\x7b\"n\":\"h\",\"x\":\x7b\"c\":2,\"d\":1\x7d\x7d]") =
        .ok ⟨[⟨[("n", .string "h"), ("x", .object [("c", .ofNat 2), ("d", .ofNat 1)])]⟩]⟩ ∧
    ∀ b ∈ unquoted .outside (Utf8.encode "[\x7b\"n\":\"h\",\"x\":\x7b\"c\":2,\"d\":1\x7d\x7d]"),
      isSpace b = false := by
  have hloose : Document (Numeral.Denotes .quick)
      (.array [.object [("x", .object [("d", .ofNat 1), ("c", .ofNat 2)]), ("n", .ofNat 7),
        ("n", .string "h")]])
      (Utf8.encode
        "[ \x7b\"x\": \x7b\"d\":1, \"c\":2\x7d, \"n\": 7,\n\"n\": \"\\u0068\"\x7d ]") :=
    Json.document_eq_ok.1 (by cbv)
  have htight : Document (Numeral.Denotes .quick)
      (.array [.object [("n", .string "h"), ("x", .object [("c", .ofNat 2), ("d", .ofNat 1)])]])
      (Utf8.encode "[\x7b\"n\":\"h\",\"x\":\x7b\"c\":2,\"d\":1\x7d\x7d]") :=
    Json.document_eq_ok.1 (by cbv)
  have halike : Alike
      (.array [.object [("x", .object [("d", .ofNat 1), ("c", .ofNat 2)]), ("n", .ofNat 7),
        ("n", .string "h")]])
      (.array [.object [("n", .string "h"),
        ("x", .object [("c", .ofNat 2), ("d", .ofNat 1)])]]) :=
    Json.alike_iff.2 (by cbv)
  have hdecode : decode (Utf8.encode "[\x7b\"n\":\"h\",\"x\":\x7b\"c\":2,\"d\":1\x7d\x7d]") =
      .ok ⟨[⟨[("n", .string "h"), ("x", .object [("c", .ofNat 2), ("d", .ofNat 1)])]⟩]⟩ := by
    cbv
  have hsame := canonical_form.1 _ _ _ _ hloose htight halike
  exact ⟨hsame.trans hdecode, hdecode, (canonical_form.2.2 _ _ hdecode).2.1⟩

end DumpWorkbench.SectionMap
