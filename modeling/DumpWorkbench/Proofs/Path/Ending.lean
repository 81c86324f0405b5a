import DumpWorkbench.Proofs.Path.Steps

namespace DumpWorkbench.Path

variable {cs ds u : List Char}

def ending (cs : List Char) : List Char := (segments cs).getLast (segments_ne_nil cs)

def above (cs : List Char) : List Component := (segments cs).dropLast.filterMap component?

/-- The last segment, if it stands for no step. -/
def trailing? (cs : List Char) : Option (List Char) :=
  match component? (ending cs) with
  | some _ => none
  | none => some (ending cs)

theorem segments_eq_concat (cs : List Char) :
    segments cs = (segments cs).dropLast ++ [ending cs] :=
  (List.dropLast_concat_getLast (segments_ne_nil cs)).symm

theorem stepsOf_append (hu : separator ∉ u) (cs : List Char) :
    stepsOf (cs ++ u) = above cs ++ (component? (ending cs ++ u)).toList := by
  have hsegments := segments_append hu (segments_eq_concat cs)
  rw [stepsOf, hsegments, List.filterMap_append, above]
  cases h : component? (ending cs ++ u) <;> simp [h]

theorem stepsOf_eq_above (cs : List Char) :
    stepsOf cs = above cs ++ (component? (ending cs)).toList := by
  have h := stepsOf_append (u := []) List.not_mem_nil cs
  simpa using h

/-- Texts of the same steps are cut into the same parts if and only if nothing trails behind their
last step, or the same does. -/
theorem same_parts_iff (h : stepsOf cs = stepsOf ds) :
    (above cs = above ds ∧ ending cs = ending ds) ↔ trailing? cs = trailing? ds := by
  rw [stepsOf_eq_above, stepsOf_eq_above] at h
  unfold trailing?
  constructor
  · rintro ⟨-, hending⟩
    rw [hending]
  · intro htrailing
    cases hc : component? (ending cs) with
    | none =>
      cases hd : component? (ending ds) with
      | none =>
        have hending : ending cs = ending ds := by simpa [hc, hd] using htrailing
        have habove : above cs = above ds := by simpa [hc, hd] using h
        exact ⟨habove, hending⟩
      | some d => simp [hc, hd] at htrailing
    | some c =>
      cases hd : component? (ending ds) with
      | none => simp [hc, hd] at htrailing
      | some d =>
        -- Both texts end with a step, which is the same for both.
        rw [hc, hd] at h
        obtain ⟨habove, hlast⟩ := List.append_inj' h rfl
        have hcd : c = d := by simpa using hlast
        refine ⟨habove, ?_⟩
        rw [← text_of_component? hc, ← text_of_component? hd, hcd]

end DumpWorkbench.Path
