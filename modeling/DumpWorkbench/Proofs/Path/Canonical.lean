import DumpWorkbench.Proofs.Path.Spelled
import DumpWorkbench.Proofs.Workspace.Containment

namespace DumpWorkbench.Path

variable {cs : List Char} {p : Path}

/-- Nothing stands in the path that tells no step. -/
structure Canonical (p : Path) : Prop where
  nonempty : p.text ≠ ""
  single : ¬ [separator, separator] <:+: p.text.toList
  dotless : ['.'] ∈ segments p.text.toList → p.text = "."
  closed : p.text.toList.getLast? = some separator → p.text = "/"

theorem segments_cons_of_ne {c : Char} (hc : c ≠ separator) (cs : List Char) :
    (segments (c :: cs)).tail = (segments cs).tail := by
  obtain ⟨s, ss, hs⟩ := List.exists_cons_of_ne_nil (segments_ne_nil cs)
  rw [segments, if_neg hc, hs]
  rfl

/-- An empty segment behind the first is between two separators or behind the last. The induction
passes over the text; a separator ends the first segment. -/
theorem doubled_or_last (h : [] ∈ (segments cs).tail) :
    [separator, separator] <:+: cs ∨ cs.getLast? = some separator := by
  induction cs with
  | nil => cases h
  | cons c cs ih =>
    have hlonger (hrest : [] ∈ (segments cs).tail) :
        [separator, separator] <:+: c :: cs ∨ (c :: cs).getLast? = some separator := by
      refine (ih hrest).imp List.infix_cons fun hlast => ?_
      rw [List.getLast?_cons, hlast]
      rfl
    by_cases hc : c = separator
    · subst hc
      have htail : (segments (separator :: cs)).tail = segments cs := rfl
      rw [htail] at h
      obtain ⟨s, ss, hs⟩ := List.exists_cons_of_ne_nil (segments_ne_nil cs)
      rw [hs] at h
      rcases List.mem_cons.1 h with rfl | hmem
      · by_cases hnil : cs = []
        · subst hnil
          exact .inr rfl
        · obtain ⟨ds, rfl⟩ := List.head?_eq_some_iff.1 (head_of_segments_nil hnil hs)
          exact .inl ⟨[], ds, rfl⟩
      · exact hlonger (by rw [hs]; exact hmem)
    · rw [segments_cons_of_ne hc] at h
      exact hlonger h

theorem segments_text (p : Path) :
    segments p.text.toList = (if p.isAbsolute then [[]] else []) ++ segments p.body := by
  conv_lhs => rw [text_eq_body p]
  split <;> rfl

theorem Canonical.body_ne_nil (h : p.Canonical) (hroot : p.text ≠ "/") : p.body ≠ [] := by
  intro hnil
  have htext := text_eq_body p
  rw [hnil, List.append_nil] at htext
  split at htext
  · exact hroot (String.toList_injective htext)
  · exact h.nonempty (String.toList_injective htext)

theorem Canonical.body_head (h : p.Canonical) : p.body.head? ≠ some separator := by
  intro hhead
  obtain ⟨ds, hbody⟩ := List.head?_eq_some_iff.1 hhead
  have htext := text_eq_body p
  rw [hbody] at htext
  split at htext
  · exact h.single ⟨[], ds, htext.symm⟩
  · rename_i habsolute
    exact habsolute (by rw [isAbsolute, htext]; rfl)

theorem Canonical.clean (h : p.Canonical) (hroot : p.text ≠ "/") (hdot : p.text ≠ ".") :
    Clean p.body := by
  have hne := h.body_ne_nil hroot
  have hsuffix : p.body <:+ p.text.toList := ⟨_, (text_eq_body p).symm⟩
  refine fun s hs => ⟨?_, ?_⟩
  · rintro rfl
    obtain ⟨t, ts, ht⟩ := List.exists_cons_of_ne_nil (segments_ne_nil p.body)
    have hfirst : t ≠ [] := by
      rintro rfl
      exact h.body_head (head_of_segments_nil hne ht)
    have htail : [] ∈ (segments p.body).tail := by
      rw [ht] at hs ⊢
      exact (List.mem_cons.1 hs).resolve_left hfirst.symm
    rcases doubled_or_last htail with hdoubled | hlast
    · exact h.single (hdoubled.trans hsuffix.isInfix)
    · apply hroot
      apply h.closed
      rwa [text_eq_body p, List.getLast?_append_of_ne_nil _ hne]
  · rintro rfl
    apply hdot
    apply h.dotless
    rw [segments_text]
    exact List.mem_append_right _ hs

theorem Clean.steps_ne_nil (h : Clean cs) : stepsOf cs ≠ [] := by
  obtain ⟨s, ss, hs⟩ := List.exists_cons_of_ne_nil (segments_ne_nil cs)
  have hmem : s ∈ segments cs := hs ▸ List.mem_cons_self
  obtain ⟨c, hc⟩ := exists_component? (h s hmem)
  exact List.ne_nil_of_mem (List.mem_filterMap.2 ⟨s, hmem, hc⟩)

/-- A path whose text is clean behind the root is canonical. -/
theorem canonical_of_clean (h : Clean p.body) : p.Canonical := by
  have hne : p.body ≠ [] := by
    intro hnil
    exact not_clean_nil (hnil ▸ h)
  have htext := text_eq_body p
  have hnot : ¬ [separator, separator] <:+: p.body := by
    rintro ⟨u, v, huv⟩
    have hcut : u ++ separator :: ([] ++ separator :: v) = p.body := by simpa using huv
    rw [← hcut, clean_append_separator, clean_append_separator] at h
    exact not_clean_nil h.2.1
  refine ⟨fun hempty => ?_, fun hdoubled => ?_, fun hdot => ?_, fun hlast => ?_⟩
  · rw [hempty] at htext
    exact hne (List.append_eq_nil_iff.1 htext.symm).2
  · rw [htext] at hdoubled
    split at hdoubled
    · rcases List.infix_cons_iff.1 hdoubled with ⟨v, hv⟩ | hinner
      · have hbody : [] ++ separator :: v = p.body := (List.cons.inj hv).2
        rw [← hbody, clean_append_separator] at h
        exact not_clean_nil h.1
      · exact hnot hinner
    · exact hnot hdoubled
  · rw [segments_text] at hdot
    have hmem : ['.'] ∈ segments p.body := by
      rcases List.mem_append.1 hdot with hroot | hmem
      · split at hroot <;> simp at hroot
      · exact hmem
    exact absurd rfl (h _ hmem).2
  · rw [htext, List.getLast?_append_of_ne_nil _ hne] at hlast
    exact absurd hlast h.last

/-- The canonical paths are the normal forms. -/
theorem canonical_iff (p : Path) : p.Canonical ↔ p.normalize = p := by
  by_cases hroot : p = ⟨"/"⟩
  · subst hroot
    exact iff_of_true ⟨by decide, by decide, by decide, by decide⟩ (by decide)
  by_cases hdot : p = ⟨"."⟩
  · subst hdot
    exact iff_of_true ⟨by decide, by decide, by decide, by decide⟩ (by decide)
  constructor
  · intro h
    have hclean := h.clean (fun htext => hroot (by cases p; congr))
      fun htext => hdot (by cases p; congr)
    exact (normalize_eq_self_iff hclean.steps_ne_nil).2 hclean
  · intro h
    have hsteps : stepsOf p.body ≠ [] := by
      intro hnil
      have hall := steps_eq p
      rw [← stepsOf_body, hnil, List.append_nil] at hall
      split at hall
      · exact hroot (h ▸ normalize_of_root hall)
      · exact hdot (h ▸ (normalize_eq p).trans (if_pos hall))
    exact canonical_of_clean ((normalize_eq_self_iff hsteps).1 h)

theorem canonical_normalize (p : Path) : p.normalize.Canonical :=
  (canonical_iff _).2 (normalize_normalize p)

theorem components_normalize (p : Path) :
    p.normalize.components = if p.steps = [] then [.current] else p.steps := by
  split
  · rename_i h
    rw [normalize_eq, if_pos h]
    rfl
  · rename_i h
    rw [normalize_eq_spell h, components_spell p.front p.written_names, ← steps_eq_front]

/-- The normal form keeps the components but for the `.` in front, so each `..` where it is, and the
root; it is canonical, one for all paths with these components, and its own normal form. All paths
that a workspace gives for a dump are such. -/
theorem normalize_canonical (p q : Path) :
    p.normalize.components = (if p.steps = [] then [.current] else p.steps) ∧
    p.normalize.steps = p.steps ∧
    p.normalize.isAbsolute = p.isAbsolute ∧
    p.normalize.Canonical ∧
    p.normalize.normalize = p.normalize ∧
    (p.normalize = q.normalize ↔ p.steps = q.steps) ∧
    (p.Canonical ↔ p.normalize = p) ∧
    ∀ (w : Workspace) (name ext : String),
      (w.dumpPath name ext).normalize = w.dumpPath name ext ∧
      (w.mapPath name).normalize = w.mapPath name ∧
      ∀ world world' found,
        Simulation.outcome (w.makeSearchPath name) world = (.ok found, world') →
          found.normalize = found := by
  refine ⟨components_normalize p, steps_normalize p, isAbsolute_normalize p, canonical_normalize p,
    normalize_normalize p, normalize_eq_iff, canonical_iff p, fun w name ext =>
      ⟨normalize_normalize _, normalize_normalize _, fun world world' found hmade => ?_⟩⟩
  rw [Workspace.eq_searchPath_of_makeSearchPath hmade]
  exact normalize_normalize _

end DumpWorkbench.Path
