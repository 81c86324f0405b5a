import DumpWorkbench.Proofs.Path.Steps

namespace DumpWorkbench.Path

variable {cs ds s : List Char} {p : Path} {q : String}

/-- No segment is empty or `.`. -/
def Clean (cs : List Char) : Prop := ∀ s ∈ segments cs, s ≠ [] ∧ s ≠ ['.']

theorem clean_append_separator : Clean (cs ++ separator :: ds) ↔ Clean cs ∧ Clean ds := by
  unfold Clean
  rw [segments_append_separator, List.forall_mem_append]

theorem map_text_stepsOf (h : Clean cs) : (stepsOf cs).map Component.text = segments cs := by
  have hstep : ∀ s ∈ segments cs, (component? s).map Component.text = some s := by
    intro s hs
    obtain ⟨c, hc⟩ := exists_component? (h s hs)
    rw [hc, Option.map_some, text_of_component? hc]
  have hall : (segments cs).filterMap (fun s => (component? s).map Component.text) =
      (segments cs).filterMap some := List.filterMap_congr hstep
  rw [stepsOf, List.map_filterMap, hall, List.filterMap_some]

theorem clean_iff (hne : stepsOf cs ≠ []) : Clean cs ↔ joinComponents (stepsOf cs) = cs := by
  constructor
  · intro h
    rw [joinComponents, map_text_stepsOf h, intercalate_segments]
  · intro h s hs
    rw [← h, segments_joinComponents (written_stepsOf cs) hne] at hs
    obtain ⟨c, hc, rfl⟩ := List.mem_map.1 hs
    have hcomponent := (written_stepsOf cs c hc).1
    constructor
    · exact component?_ne_nil hcomponent
    · intro hdot
      rw [hdot] at hcomponent
      cases hcomponent

def body (p : Path) : List Char := if p.isAbsolute then p.text.toList.tail else p.text.toList

theorem text_eq_body (p : Path) :
    p.text.toList = (if p.isAbsolute then [separator] else []) ++ p.body := by
  unfold body
  split
  · rename_i h
    obtain ⟨ds, hds⟩ := List.head?_eq_some_iff.1 (beq_iff_eq.1 h)
    rw [hds]
    rfl
  · rfl

theorem stepsOf_body (p : Path) : stepsOf p.body = stepsOf p.text.toList := by
  rw [text_eq_body p]
  split
  · exact (stepsOf_separator p.body).symm
  · rfl

theorem normalize_text (h : stepsOf p.body ≠ []) :
    p.normalize.text.toList =
      (if p.isAbsolute then [separator] else []) ++ joinComponents (stepsOf p.body) := by
  have hwritten := written_stepsOf p.body
  have hsteps := steps_eq p
  rw [← stepsOf_body] at hsteps
  have hne : p.steps ≠ [] := by
    rw [hsteps]
    exact List.append_ne_nil_of_right_ne_nil _ h
  rw [normalize_eq, if_neg hne, String.toList_ofList, hsteps]
  split
  · rfl
  · exact textOf_written hwritten

/-- A path with a step is in normal form if its text is clean behind the root. -/
theorem normalize_eq_self_iff (h : stepsOf p.body ≠ []) : p.normalize = p ↔ Clean p.body := by
  rw [clean_iff h]
  constructor
  · intro heq
    have htext := normalize_text h
    rw [heq, text_eq_body p] at htext
    exact (List.append_cancel_left htext).symm
  · intro hbody
    have htext : p.normalize.text.toList = p.text.toList := by
      rw [normalize_text h, hbody, ← text_eq_body]
    obtain ⟨text⟩ := p
    exact congrArg Path.mk (String.toList_injective htext)

theorem normalize_text_ne (p : Path) : p.normalize.text ≠ "" := by
  intro h
  have hsteps : p.steps = [] := by
    rw [← steps_normalize, steps, components, h]
    rfl
  rw [normalize_eq, if_pos hsteps] at h
  exact absurd h (by decide)

theorem not_clean_nil : ¬ Clean [] := fun h => (h [] List.mem_cons_self).1 rfl

theorem Clean.last (h : Clean cs) : cs.getLast? ≠ some separator := by
  intro hlast
  obtain ⟨ds, rfl⟩ := List.getLast?_eq_some_iff.1 hlast
  exact not_clean_nil (clean_append_separator.1 h).2

theorem body_join (hp : p.text ≠ "") (hq : q.toList.head? ≠ some separator)
    (hlast : p.text.toList.getLast? ≠ some separator) :
    (p.join q).body = p.body ++ separator :: q.toList := by
  obtain ⟨cs, hjoin, hcs⟩ := join_text hp hq
  rcases hcs with rfl | hcs
  · unfold body
    rw [isAbsolute_join hq, hjoin]
    split
    · have hne : p.text.toList ≠ [] := by simpa using hp
      exact List.tail_append_of_ne_nil hne
    · rfl
  · rw [hcs, List.getLast?_concat] at hlast
    exact absurd rfl hlast

theorem body_join_root (hq : q.toList.head? ≠ some separator) :
    ((Path.mk "/").join q).body = q.toList := by
  have hjoin : (Path.mk "/").join q = ⟨"/" ++ q⟩ := by
    unfold join
    dsimp only
    rw [if_neg (not_or.2 ⟨hq, by decide⟩), if_pos (by decide)]
  have htext : ("/" ++ q).toList = separator :: q.toList := String.toList_append
  rw [hjoin, body, isAbsolute, htext]
  rfl

theorem normalize_of_root (h : p.steps = [.root]) : p.normalize = ⟨"/"⟩ := by
  rw [normalize_eq, h, if_neg (List.cons_ne_nil _ _)]
  rfl

theorem clean_join_iff (hq : q.toList.head? ≠ some separator) (p : Path) :
    Clean (p.normalize.join q).body ↔ p.steps ≠ [] ∧ Clean q.toList := by
  -- A path without steps is written `.`, which stays in front of what is joined to it.
  by_cases hsteps : p.steps = []
  · have hdot : p.normalize = ⟨"."⟩ := by rw [normalize_eq, if_pos hsteps]
    rw [hdot, body_join (by decide) hq (by decide), clean_append_separator]
    constructor
    · intro h
      exact absurd rfl (h.1 ['.'] List.mem_cons_self).2
    · intro h
      exact absurd hsteps h.1
  have hsame := steps_normalize p
  rw [steps_eq, ← stepsOf_body] at hsame
  by_cases hnames : stepsOf p.normalize.body = []
  · have hroot : p.steps = [.root] := by
      rw [hnames, List.append_nil] at hsame
      split at hsame
      · exact hsame.symm
      · exact absurd hsame.symm hsteps
    rw [normalize_of_root hroot, body_join_root hq]
    exact ⟨fun h => ⟨hsteps, h⟩, fun h => h.2⟩
  · have hclean := (normalize_eq_self_iff hnames).1 (normalize_normalize p)
    have hbody : p.normalize.body ≠ [] := fun h => hnames (by rw [h]; rfl)
    have htext := text_eq_body p.normalize
    have hlast : p.normalize.text.toList.getLast? ≠ some separator := by
      rw [htext, List.getLast?_append_of_ne_nil _ hbody]
      exact hclean.last
    rw [body_join (normalize_text_ne p) hq hlast, clean_append_separator]
    exact ⟨fun h => ⟨hsteps, h.2⟩, fun h => ⟨hclean, h.2⟩⟩

end DumpWorkbench.Path
