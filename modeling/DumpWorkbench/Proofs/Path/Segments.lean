import DumpWorkbench.Path

namespace DumpWorkbench.Path

variable {cs u s : List Char} {ss : List (List Char)}

theorem segments_eq_splitOn (cs : List Char) : segments cs = cs.splitOn separator := by
  induction cs with
  | nil => rfl
  | cons c cs ih =>
    rw [segments, ih, List.splitOn_cons_eq_if_modifyHead]
    simp only [beq_iff_eq]
    split
    · rfl
    · cases h : cs.splitOn separator with
      | nil => exact absurd h (List.splitOn_ne_nil separator cs)
      | cons s ss => rfl

theorem segments_ne_nil (cs : List Char) : segments cs ≠ [] := by
  rw [segments_eq_splitOn]
  exact List.splitOn_ne_nil separator cs

theorem segments_append_separator (cs ds : List Char) :
    segments (cs ++ separator :: ds) = segments cs ++ segments ds := by
  simp only [segments_eq_splitOn]
  exact List.splitOn_append_cons_self cs ds

theorem segments_of_not_mem (h : separator ∉ cs) : segments cs = [cs] := by
  rw [segments_eq_splitOn]
  exact List.splitOn_eq_singleton h

theorem intercalate_segments (cs : List Char) : [separator].intercalate (segments cs) = cs := by
  rw [segments_eq_splitOn]
  exact List.intercalate_splitOn separator

theorem segments_intercalate (hss : ∀ s ∈ ss, separator ∉ s)
    (hne : ss ≠ []) : segments ([separator].intercalate ss) = ss := by
  rw [segments_eq_splitOn]
  exact List.splitOn_intercalate separator hss hne

theorem separator_not_mem_segments (hs : s ∈ segments cs) : separator ∉ s := by
  induction cs generalizing s with
  | nil =>
    obtain rfl := List.mem_singleton.1 hs
    exact List.not_mem_nil
  | cons c cs ih =>
    unfold segments at hs
    split at hs
    · rcases List.mem_cons.1 hs with rfl | hs
      · exact List.not_mem_nil
      · exact ih hs
    · rename_i hc
      cases hcs : segments cs with
      | nil => exact absurd hcs (segments_ne_nil cs)
      | cons t ts =>
        rw [hcs] at hs ih
        rcases List.mem_cons.1 hs with rfl | hs
        · intro hmem
          rcases List.mem_cons.1 hmem with hmem | hmem
          · exact hc hmem.symm
          · exact ih List.mem_cons_self hmem
        · exact ih (List.mem_cons_of_mem t hs)

theorem mem_intercalate {c : Char} (hc : c ≠ separator) :
    c ∈ [separator].intercalate ss ↔ ∃ s ∈ ss, c ∈ s := by
  induction ss with
  | nil => simp
  | cons s ss ih =>
    by_cases hss : ss = []
    · subst hss
      simp [List.intercalate]
    · rw [List.intercalate_cons_of_ne_nil hss]
      simp [ih, hc]

theorem mem_iff_segments {c : Char} (hc : c ≠ separator) :
    c ∈ cs ↔ ∃ s ∈ segments cs, c ∈ s := by
  rw [← mem_intercalate hc, intercalate_segments]

theorem exists_cut_last {c : Char} (h : c ∈ cs) : ∃ ds s, cs = ds ++ c :: s ∧ c ∉ s := by
  obtain ⟨s, ds, hcs, hs⟩ := List.eq_append_cons_of_mem (List.mem_reverse.2 h)
  refine ⟨ds.reverse, s.reverse, ?_, fun hmem => hs (List.mem_reverse.1 hmem)⟩
  rw [← List.reverse_reverse cs, hcs]
  simp

theorem segments_prepend (hu : separator ∉ u) (h : segments cs = s :: ss) :
    segments (u ++ cs) = (u ++ s) :: ss := by
  induction u with
  | nil => exact h
  | cons c u ih =>
    have hc : c ≠ separator := fun hc => hu (hc ▸ List.mem_cons_self)
    rw [List.cons_append, segments, if_neg hc, ih fun hmem => hu (List.mem_cons_of_mem c hmem)]
    rfl

theorem head_of_segments_nil (hne : cs ≠ []) (h : segments cs = [] :: ss) :
    cs.head? = some separator := by
  obtain ⟨c, ds, rfl⟩ := List.exists_cons_of_ne_nil hne
  by_cases hc : c = separator
  · exact congrArg some hc
  · have hsep : separator ∉ [c] := fun hmem => hc (List.mem_singleton.1 hmem).symm
    obtain ⟨t, ts, ht⟩ := List.exists_cons_of_ne_nil (segments_ne_nil ds)
    have hsegments := segments_prepend hsep ht
    rw [List.singleton_append, h] at hsegments
    cases hsegments

theorem segments_append (hu : separator ∉ u) (h : segments cs = ss ++ [s]) :
    segments (cs ++ u) = ss ++ [s ++ u] := by
  by_cases hcs : separator ∈ cs
  · obtain ⟨ds, t, rfl, ht⟩ := exists_cut_last hcs
    rw [segments_append_separator, segments_of_not_mem ht] at h
    obtain ⟨rfl, hts⟩ := List.append_inj' h rfl
    obtain rfl := List.singleton_inj.1 hts
    have htu : separator ∉ t ++ u := fun hmem => (List.mem_append.1 hmem).elim ht hu
    rw [List.append_assoc, List.cons_append, segments_append_separator, segments_of_not_mem htu]
  · have hcu : separator ∉ cs ++ u := fun hmem => (List.mem_append.1 hmem).elim hcs hu
    rw [segments_of_not_mem hcs, ← List.nil_append [cs]] at h
    obtain ⟨rfl, hcs⟩ := List.append_inj' h rfl
    obtain rfl := List.singleton_inj.1 hcs
    exact segments_of_not_mem hcu

end DumpWorkbench.Path
