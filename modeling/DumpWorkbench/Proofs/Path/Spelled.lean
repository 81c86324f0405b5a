import DumpWorkbench.Proofs.Path.Normal

namespace DumpWorkbench.Path

variable {ns ms : List Component} {c : Component} {p : Path} {q : String}

/-- What stands before the steps of a path. -/
inductive Front where
  | bare
  | root
  | current
deriving DecidableEq

def Front.components : Front → List Component
  | .bare => []
  | .root => [.root]
  | .current => [.current]

def Front.segments : Front → List (List Char)
  | .bare => []
  | .root => [[]]
  | .current => [['.']]

def spell (f : Front) (ns : List Component) : Path :=
  ⟨String.ofList (textOf (f.components ++ ns))⟩

theorem eq_of_toList {p q : Path} (h : p.text.toList = q.text.toList) : p = q := by
  obtain ⟨text⟩ := p
  obtain ⟨other⟩ := q
  exact congrArg Path.mk (String.toList_injective h)

theorem joinComponents_singleton (c : Component) : joinComponents [c] = c.text :=
  List.append_nil _

theorem joinComponents_cons (c : Component) (hns : ns ≠ []) :
    joinComponents (c :: ns) = c.text ++ separator :: joinComponents ns := by
  unfold joinComponents
  rw [List.map_cons, List.intercalate_cons_of_ne_nil (by simpa using hns), List.append_assoc]
  rfl

theorem joinComponents_concat (c : Component) (hns : ns ≠ []) :
    joinComponents (ns ++ [c]) = joinComponents ns ++ separator :: c.text := by
  induction ns with
  | nil => exact absurd rfl hns
  | cons d ns ih =>
    by_cases hrest : ns = []
    · subst hrest
      rw [joinComponents_singleton, List.singleton_append,
        joinComponents_cons d (List.cons_ne_nil c []), joinComponents_singleton]
    · rw [List.cons_append, joinComponents_cons d (by simp), ih hrest, joinComponents_cons d hrest,
        List.append_assoc]
      rfl

theorem text_spell_bare (h : Written ns) : (spell .bare ns).text.toList = joinComponents ns :=
  String.toList_ofList.trans (textOf_written h)

theorem text_spell_root (ns : List Component) :
    (spell .root ns).text.toList = separator :: joinComponents ns :=
  String.toList_ofList

theorem text_spell_current (hns : ns ≠ []) :
    (spell .current ns).text.toList = '.' :: separator :: joinComponents ns :=
  String.toList_ofList.trans (joinComponents_cons .current hns)

theorem text_spell_concat (f : Front) (h : Written (ns ++ [c])) (hns : ns ≠ []) :
    (spell f (ns ++ [c])).text.toList = (spell f ns).text.toList ++ separator :: c.text := by
  have hconcat := joinComponents_concat c hns
  cases f with
  | bare =>
    rw [text_spell_bare h, hconcat, text_spell_bare fun d hd => h d (List.mem_append_left [c] hd)]
  | root =>
    rw [text_spell_root, text_spell_root, hconcat]
    rfl
  | current =>
    rw [text_spell_current (by simp), text_spell_current hns, hconcat]
    rfl

theorem exists_text_spell_concat (f : Front) (h : Written (ns ++ [c])) :
    ∃ cs, (spell f (ns ++ [c])).text.toList = (spell f ns).text.toList ++ cs := by
  by_cases hns : ns = []
  · subst hns
    rw [List.nil_append] at h ⊢
    cases f with
    | bare =>
      rw [text_spell_bare h]
      exact ⟨_, rfl⟩
    | root =>
      rw [text_spell_root]
      exact ⟨_, rfl⟩
    | current =>
      rw [text_spell_current (List.cons_ne_nil c [])]
      exact ⟨_, rfl⟩
  · exact ⟨_, text_spell_concat f h hns⟩

theorem segments_spell (f : Front) (h : Written ns) (hns : ns ≠ []) :
    segments (spell f ns).text.toList = f.segments ++ ns.map Component.text := by
  have hsegments := segments_joinComponents h hns
  cases f with
  | bare =>
    rw [text_spell_bare h, hsegments]
    rfl
  | root =>
    rw [text_spell_root, segments, if_pos rfl, hsegments]
    rfl
  | current =>
    rw [text_spell_current hns]
    change segments (['.'] ++ separator :: joinComponents ns) = _
    rw [segments_append_separator, hsegments]
    rfl

theorem getLast?_spell (f : Front) (h : Written ns) (hns : ns ≠ []) :
    (spell f ns).text.toList.getLast? ≠ some separator := by
  intro hlast
  obtain ⟨cs, hcs⟩ := List.getLast?_eq_some_iff.1 hlast
  have hsegments := segments_spell f h hns
  have hcut : segments (cs ++ separator :: []) = segments cs ++ [[]] :=
    segments_append_separator cs []
  rw [hcs, hcut] at hsegments
  obtain ⟨ms, c, rfl⟩ := List.eq_nil_or_concat' ns |>.resolve_left hns
  rw [List.map_append, ← List.append_assoc] at hsegments
  have hnil := List.singleton_inj.1 (List.append_inj_right' hsegments rfl)
  have hc := (h c (List.mem_append_right ms List.mem_cons_self)).1
  exact component?_ne_nil hc hnil.symm

theorem isAbsolute_spell (f : Front) (h : Written ns) :
    (spell f ns).isAbsolute = true ↔ f = .root := by
  unfold isAbsolute
  rw [beq_iff_eq]
  cases f with
  | bare =>
    rw [text_spell_bare h]
    exact ⟨fun hhead => absurd hhead (joinComponents_head h), Front.noConfusion⟩
  | root =>
    rw [text_spell_root]
    exact ⟨fun _ => rfl, fun _ => rfl⟩
  | current =>
    refine ⟨fun hhead => ?_, Front.noConfusion⟩
    by_cases hns : ns = []
    · subst hns
      cases hhead
    · rw [text_spell_current hns] at hhead
      cases hhead

theorem components_spell (f : Front) (h : Written ns) :
    (spell f ns).components = f.components ++ ns := by
  by_cases hns : ns = []
  · subst hns
    cases f <;> rfl
  · have hsegments := segments_spell f h hns
    have hsteps : (f.segments ++ ns.map Component.text).filterMap component? = ns := by
      rw [List.filterMap_append, ← segments_joinComponents h hns]
      cases f <;> exact stepsOf_joinComponents h
    have hhead : (spell f ns).text.toList.head? = some separator ↔ f = .root := by
      rw [← isAbsolute_spell f h, isAbsolute, beq_iff_eq]
    unfold components componentsOf
    rw [hsegments, hsteps]
    cases f with
    | bare =>
      -- A step is never a dot, so no current directory is read in front of a bare path.
      have hdot : ([] ++ ns.map Component.text).head? ≠ some ['.'] := by
        obtain ⟨d, ms, rfl⟩ := List.exists_cons_of_ne_nil hns
        intro heq
        have hd := (h d List.mem_cons_self).1
        rw [show d.text = ['.'] from Option.some.inj heq] at hd
        cases hd
      rw [if_neg fun heq => Front.noConfusion (hhead.1 heq)]
      exact if_neg hdot
    | root => rw [if_pos (hhead.2 rfl)]; rfl
    | current =>
      rw [if_neg fun heq => Front.noConfusion (hhead.1 heq)]
      exact if_pos rfl

def names (p : Path) : List Component := stepsOf p.text.toList

theorem written_names (p : Path) : Written p.names := written_stepsOf p.text.toList

def front (p : Path) : Front := if p.isAbsolute then .root else .bare

theorem steps_eq_front (p : Path) : p.steps = p.front.components ++ p.names := by
  rw [steps_eq, front]
  split <;> rfl

theorem normalize_eq_spell (h : p.steps ≠ []) : p.normalize = spell p.front p.names := by
  rw [normalize_eq, if_neg h, steps_eq_front]
  rfl

theorem spell_text_ne (f : Front) (h : Written ns) (hns : ns ≠ []) : (spell f ns).text ≠ "" := by
  intro hempty
  have hcomponents := components_spell f h
  rw [components, hempty] at hcomponents
  exact hns (List.append_eq_nil_iff.1 hcomponents.symm).2

theorem front_normalize (p : Path) : p.normalize.front = p.front := by
  rw [front, isAbsolute_normalize, front]

theorem names_normalize (p : Path) : p.normalize.names = p.names := by
  have hsteps := steps_normalize p
  rw [steps_eq_front, steps_eq_front, front_normalize] at hsteps
  exact List.append_cancel_left hsteps

theorem names_join {q : String} (hq : q.toList.head? ≠ some separator) :
    (p.join q).names = p.names ++ stepsOf q.toList := by
  have hfront : (p.join q).front = p.front := by rw [front, isAbsolute_join hq, front]
  have hsteps := steps_join (p := p) hq
  rw [steps_eq_front, steps_eq_front, hfront, List.append_assoc] at hsteps
  exact List.append_cancel_left hsteps

theorem join_spell (f : Front) (h : Written (ns ++ [.name q])) (hns : ns ≠ []) :
    (spell f ns).join q = spell f (ns ++ [.name q]) := by
  have hwritten : Written ns := fun d hd => h d (List.mem_append_left _ hd)
  have hrel : q.toList.head? ≠ some separator := fun hhead =>
    (h _ (List.mem_append_right ns List.mem_cons_self)).2 (List.mem_of_mem_head? hhead)
  obtain ⟨cs, hjoin, hcs⟩ := join_text (spell_text_ne f hwritten hns) hrel
  refine eq_of_toList ?_
  rw [text_spell_concat f h hns, hjoin]
  obtain hcs | hcs := hcs
  · rw [hcs]
    rfl
  · exact absurd (hcs ▸ List.getLast?_concat) (getLast?_spell f hwritten hns)

theorem exists_spell_join (p : Path) (hq : Written [.name q]) :
    ∃ f, p.normalize.join q = spell f (p.names ++ [.name q]) ∧
      (f = .root ↔ p.front = .root) := by
  have hrel : q.toList.head? ≠ some separator := fun hhead =>
    (hq _ List.mem_cons_self).2 (List.mem_of_mem_head? hhead)
  have hsteps := steps_eq_front p
  -- Without steps the path is the root or normalizes to a dot.
  by_cases hnames : p.names = []
  · rw [hnames] at hsteps ⊢
    cases habsolute : p.isAbsolute with
    | false =>
      rw [front, habsolute] at hsteps
      have hnil : p.steps = [] := hsteps
      have hdot : p.normalize = ⟨"."⟩ := by rw [normalize_eq, if_pos hnil]
      refine ⟨.current, ?_, by simp [front, habsolute]⟩
      rw [hdot]
      refine eq_of_toList ?_
      rw [List.nil_append, text_spell_current (List.cons_ne_nil _ _), joinComponents_singleton,
        join, if_neg (not_or.2 ⟨hrel, by decide⟩), if_neg (by decide), String.toList_append]
      rfl
    | true =>
      rw [front, habsolute] at hsteps
      refine ⟨.root, ?_, by simp [front, habsolute]⟩
      rw [normalize_of_root hsteps]
      refine eq_of_toList ?_
      rw [List.nil_append, text_spell_root, joinComponents_singleton, join,
        if_neg (not_or.2 ⟨hrel, by decide⟩), if_pos (by decide), String.toList_append]
      rfl
  · have hne : p.steps ≠ [] := by
      rw [hsteps]
      exact List.append_ne_nil_of_right_ne_nil _ hnames
    have hwritten : Written (p.names ++ [.name q]) := by
      intro d hd
      obtain hd | hd := List.mem_append.1 hd
      · exact written_names p d hd
      · exact hq d hd
    refine ⟨p.front, ?_, Iff.rfl⟩
    rw [normalize_eq_spell hne, join_spell p.front hwritten hnames]

end DumpWorkbench.Path
