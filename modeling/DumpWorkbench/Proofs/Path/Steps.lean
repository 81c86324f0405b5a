import DumpWorkbench.Proofs.Path.Segments
import Mathlib.Data.List.Basic

namespace DumpWorkbench.Path

variable {cs ds s : List Char} {c : Component} {ns : List Component} {p : Path} {q : String}

/-- The components that the segments of a text stand for, its root left out. -/
def stepsOf (cs : List Char) : List Component := (segments cs).filterMap component?

theorem text_of_component? (h : component? s = some c) : c.text = s := by
  unfold component? at h
  split at h
  · cases h
  · split at h
    · rename_i hs
      obtain rfl := Option.some.inj h
      exact hs.symm
    · obtain rfl := Option.some.inj h
      exact String.toList_ofList

theorem exists_component? (h : s ≠ [] ∧ s ≠ ['.']) : ∃ c, component? s = some c := by
  unfold component?
  rw [if_neg (not_or.2 h)]
  split <;> exact ⟨_, rfl⟩

theorem component?_ne_nil (h : component? s = some c) : s ≠ [] := by
  rintro rfl
  cases h

theorem component?_ne_root (h : component? s = some c) : c ≠ .root := by
  unfold component? at h
  split at h
  · cases h
  · split at h <;> (obtain rfl := Option.some.inj h; exact Component.noConfusion)

theorem component?_ne_current (h : component? s = some c) : c ≠ .current := by
  unfold component? at h
  split at h
  · cases h
  · split at h <;> (obtain rfl := Option.some.inj h; exact Component.noConfusion)

theorem stepsOf_append_separator (cs ds : List Char) :
    stepsOf (cs ++ separator :: ds) = stepsOf cs ++ stepsOf ds := by
  rw [stepsOf, segments_append_separator, List.filterMap_append]
  rfl

theorem stepsOf_separator (cs : List Char) : stepsOf (separator :: cs) = stepsOf cs :=
  stepsOf_append_separator [] cs

/-- Steps that can be written down and read again. -/
def Written (ns : List Component) : Prop :=
  ∀ c ∈ ns, component? c.text = some c ∧ separator ∉ c.text

theorem written_stepsOf (cs : List Char) : Written (stepsOf cs) := by
  intro c hc
  obtain ⟨s, hs, hc⟩ := List.mem_filterMap.1 hc
  rw [text_of_component? hc]
  exact ⟨hc, separator_not_mem_segments hs⟩

theorem segments_joinComponents (h : Written ns) (hns : ns ≠ []) :
    segments (joinComponents ns) = ns.map Component.text := by
  apply segments_intercalate
  · intro s hs
    obtain ⟨c, hc, rfl⟩ := List.mem_map.1 hs
    exact (h c hc).2
  · simpa using hns

theorem stepsOf_joinComponents (h : Written ns) : stepsOf (joinComponents ns) = ns := by
  by_cases hns : ns = []
  · subst hns
    rfl
  · have hsome : ns.filterMap (component? ∘ Component.text) = ns.filterMap some :=
      List.filterMap_congr fun c hc => (h c hc).1
    rw [stepsOf, segments_joinComponents h hns, List.filterMap_map, hsome, List.filterMap_some]

theorem joinComponents_head (h : Written ns) : (joinComponents ns).head? ≠ some separator := by
  intro hhead
  cases ns with
  | nil => cases hhead
  | cons c ns =>
    obtain ⟨ds, hds⟩ := List.head?_eq_some_iff.1 hhead
    have hsegments := segments_joinComponents h (List.cons_ne_nil c ns)
    rw [hds] at hsegments
    have hnil : [] = c.text := (List.cons.inj hsegments).1
    exact component?_ne_nil (h c List.mem_cons_self).1 hnil.symm

theorem textOf_written (h : Written ns) : textOf ns = joinComponents ns := by
  cases ns with
  | nil => rfl
  | cons c ns =>
    cases c with
    | root => exact absurd rfl (component?_ne_root (h _ List.mem_cons_self).1)
    | _ => rfl

/-- The components of a path without a `.` in front. -/
def steps (p : Path) : List Component := p.components.filter (· ≠ .current)

theorem steps_eq (p : Path) :
    p.steps = (if p.isAbsolute then [.root] else []) ++ stepsOf p.text.toList := by
  have hkeep : (stepsOf p.text.toList).filter (· ≠ .current) = stepsOf p.text.toList := by
    apply List.filter_eq_self.2
    intro c hc
    obtain ⟨s, -, hs⟩ := List.mem_filterMap.1 hc
    exact decide_eq_true (component?_ne_current hs)
  have hhead : p.isAbsolute = true ↔ p.text.toList.head? = some separator := beq_iff_eq
  unfold steps components componentsOf
  split
  · rename_i h
    rw [if_pos (hhead.2 h)]
    change Component.root :: (stepsOf p.text.toList).filter (· ≠ .current) = _
    rw [hkeep]
    rfl
  · rename_i h
    rw [if_neg (mt hhead.1 h)]
    split
    · exact hkeep
    · exact hkeep

theorem isAbsolute_iff_steps (p : Path) : p.isAbsolute = true ↔ p.steps.head? = some .root := by
  rw [steps_eq]
  constructor
  · intro h
    rw [if_pos h]
    rfl
  · intro h
    by_cases habs : p.isAbsolute = true
    · exact habs
    · rw [if_neg habs, List.nil_append] at h
      obtain ⟨s, -, hs⟩ := List.mem_filterMap.1 (List.mem_of_head? h)
      exact absurd rfl (component?_ne_root hs)

theorem join_text (hp : p.text ≠ "") (hq : q.toList.head? ≠ some separator) :
    ∃ cs, (p.join q).text.toList = cs ++ separator :: q.toList ∧
      (p.text.toList = cs ∨ p.text.toList = cs ++ [separator]) := by
  have hcs : p.text.toList ≠ [] := by simpa using hp
  unfold join
  dsimp only
  rw [if_neg (not_or.2 ⟨hq, hcs⟩)]
  split
  · rename_i hlast
    obtain ⟨cs, hlast⟩ := List.getLast?_eq_some_iff.1 hlast
    refine ⟨cs, ?_, Or.inr hlast⟩
    rw [String.toList_append, hlast, List.append_assoc]
    rfl
  · refine ⟨p.text.toList, ?_, Or.inl rfl⟩
    rw [String.toList_append, String.toList_append, List.append_assoc]
    rfl

theorem join_of_empty (hp : p.text = "") (q : String) : p.join q = ⟨q⟩ := by
  have hcs : p.text.toList = [] := by rw [hp]; rfl
  exact if_pos (Or.inr hcs)

theorem isAbsolute_join (hq : q.toList.head? ≠ some separator) :
    (p.join q).isAbsolute = p.isAbsolute := by
  unfold isAbsolute
  by_cases hp : p.text = ""
  · rw [join_of_empty hp, hp]
    exact beq_eq_false_iff_ne.2 hq
  · obtain ⟨cs, hjoin, hcs⟩ := join_text hp hq
    rw [hjoin]
    rcases hcs with hcs | hcs
    · have hne : cs ≠ [] := by
        rw [← hcs]
        simpa using hp
      rw [hcs]
      obtain ⟨c, cs, rfl⟩ := List.exists_cons_of_ne_nil hne
      rfl
    · rw [hcs]
      cases cs <;> rfl

theorem steps_join (hq : q.toList.head? ≠ some separator) :
    (p.join q).steps = p.steps ++ stepsOf q.toList := by
  rw [steps_eq, steps_eq, isAbsolute_join hq, List.append_assoc]
  congr 1
  by_cases hp : p.text = ""
  · rw [join_of_empty hp, hp]
    rfl
  · obtain ⟨cs, hjoin, hcs⟩ := join_text hp hq
    rw [hjoin, stepsOf_append_separator]
    rcases hcs with hcs | hcs
    · rw [hcs]
    · rw [hcs, stepsOf_append_separator]
      exact congrArg (· ++ stepsOf q.toList) (List.append_nil _).symm

theorem normalize_eq (p : Path) :
    p.normalize = if p.steps = [] then ⟨"."⟩ else ⟨String.ofList (textOf p.steps)⟩ := by
  unfold normalize
  simp only [List.isEmpty_iff]
  rfl

theorem steps_normalize (p : Path) : p.normalize.steps = p.steps := by
  rw [normalize_eq]
  split
  · rename_i h
    rw [h]
    rfl
  · have hwritten := written_stepsOf p.text.toList
    rw [steps_eq]
    unfold isAbsolute
    rw [String.toList_ofList]
    by_cases habs : p.isAbsolute = true
    · have htext : textOf p.steps = separator :: joinComponents (stepsOf p.text.toList) := by
        rw [steps_eq, if_pos habs]
        rfl
      rw [htext, stepsOf_separator, stepsOf_joinComponents hwritten, steps_eq, if_pos habs]
      rfl
    · have hsteps : p.steps = stepsOf p.text.toList := by
        rw [steps_eq, if_neg habs, List.nil_append]
      have htext : textOf p.steps = joinComponents p.steps := by
        rw [hsteps, textOf_written hwritten]
      have hhead := joinComponents_head hwritten
      rw [htext, hsteps, stepsOf_joinComponents hwritten,
        if_neg (mt beq_iff_eq.1 hhead), List.nil_append]

theorem isAbsolute_congr {p q : Path} (h : p.steps = q.steps) : p.isAbsolute = q.isAbsolute := by
  rw [Bool.eq_iff_iff, isAbsolute_iff_steps, isAbsolute_iff_steps, h]

theorem isAbsolute_normalize (p : Path) : p.normalize.isAbsolute = p.isAbsolute :=
  isAbsolute_congr (steps_normalize p)

theorem normalize_congr {p q : Path} (h : p.steps = q.steps) : p.normalize = q.normalize := by
  rw [normalize_eq, normalize_eq, h]

/-- The normal form tells the steps and nothing else. -/
theorem normalize_eq_iff {p q : Path} : p.normalize = q.normalize ↔ p.steps = q.steps := by
  constructor
  · intro h
    rw [← steps_normalize p, h, steps_normalize q]
  · exact normalize_congr

theorem normalize_normalize (p : Path) : p.normalize.normalize = p.normalize :=
  normalize_congr (steps_normalize p)

end DumpWorkbench.Path
