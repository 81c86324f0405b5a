import DumpWorkbench.Proofs.Json.Document

namespace DumpWorkbench.Json

variable {v : Value} {vs : List Value} {bs r t : Bytes} {n : Nat}

theorem length_lt_of_value (h : value .quick n bs = .ok (v, r)) : r.length < bs.length := by
  obtain ⟨s, t, -, ht, rfl⟩ := (value_recognizes n).sound h
  obtain ⟨b, u, rfl, -⟩ := text_begins ht
  simp only [List.length_append, List.length_cons]
  omega

/-- The values of a text, each read where the one before it ends. -/
def stream (bs : Bytes) : Except Stop (List Value) :=
  if skipSpace bs = [] then .ok []
  else
    match h : value .quick maxDepth bs with
    | .error e => .error e
    | .ok (v, r) =>
      have _ : r.length < bs.length := length_lt_of_value h
      (stream r).map (v :: ·)
termination_by bs.length

theorem stream_of_blank (h : skipSpace bs = []) : stream bs = .ok [] := by
  rw [stream, if_pos h]

theorem stream_of_error {e : Stop} (hbs : skipSpace bs ≠ [])
    (h : value .quick maxDepth bs = .error e) :
    stream bs = .error e := by
  rw [stream, if_neg hbs]
  split
  · rename_i herror
    rw [h] at herror
    rw [Except.error.inj herror]
  · rename_i hok
    rw [h] at hok
    cases hok

theorem stream_of_value (h : value .quick maxDepth bs = .ok (v, r)) :
    stream bs = (stream r).map (v :: ·) := by
  obtain ⟨b, t, hskip, -, -⟩ := value_begins h
  rw [stream, if_neg (hskip ▸ List.cons_ne_nil b t)]
  split
  · rename_i herror
    rw [h] at herror
    cases herror
  · rename_i hok
    rw [h] at hok
    obtain ⟨rfl, rfl⟩ := Prod.mk.inj (Except.ok.inj hok)
    rfl

theorem stream_skip (ht : Blank t) (bs : Bytes) : stream (t ++ bs) = stream bs := by
  have hskip := skipSpace_append ht bs
  have hvalue : value .quick maxDepth (t ++ bs) = value .quick maxDepth bs := value_skip ht bs
  by_cases hbs : skipSpace bs = []
  · rw [stream_of_blank hbs, stream_of_blank (hskip.trans hbs)]
  · cases h : value .quick maxDepth bs with
    | error e => rw [stream_of_error hbs h, stream_of_error (hskip ▸ hbs) (hvalue.trans h)]
    | ok read =>
      obtain ⟨v, r⟩ := read
      rw [stream_of_value h, stream_of_value (hvalue.trans h)]

/-- A document with a line end behind it is read by itself, whatever follows. -/
theorem stream_line (h : Document (Numeral.Denotes .quick) v t) (r : Bytes) :
    stream (t ++ 0x0A :: r) = (stream r).map (v :: ·) := by
  cases h with
  | @mk s t u hs ht hu =>
    have hends : EndsNumber (u ++ 0x0A :: r) := endsNumber_blank hu (endsNumber_cons (by decide) r)
    have hline : Blank (u ++ [0x0A]) := by
      apply blank_append hu
      intro b hb
      rw [List.mem_singleton.1 hb]
      decide
    have hrest : stream (u ++ 0x0A :: r) = stream r := by
      rw [← stream_skip hline r, List.append_assoc]
      rfl
    rw [List.append_assoc, List.append_assoc, stream_skip hs,
      stream_of_value ((value_recognizes maxDepth).complete ht hends), hrest]

end DumpWorkbench.Json
