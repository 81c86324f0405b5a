import DumpWorkbench.Shell.Quote

namespace DumpWorkbench.Shell

variable {cs ds : List Char} {x y : String}

theorem quoteInside_cons_ne {c : Char} (hc : c ≠ '\'') (cs : List Char) :
    quoteInside (c :: cs) = c :: quoteInside cs := if_neg hc

theorem quoteInside_quote_cons (cs : List Char) :
    quoteInside ('\'' :: cs) = ['\'', '\\', '\'', '\''] ++ quoteInside cs := if_pos rfl

theorem quoteInside_injective (h : quoteInside cs = quoteInside ds) : cs = ds := by
  induction cs generalizing ds with
  | nil =>
    cases ds with
    | nil => rfl
    | cons d ds =>
      unfold quoteInside at h
      split at h <;> cases h
  | cons c cs ih =>
    cases ds with
    | nil =>
      unfold quoteInside at h
      split at h <;> cases h
    | cons d ds =>
      by_cases hc : c = '\''
      · by_cases hd : d = '\''
        · subst hc hd
          rw [quoteInside_quote_cons, quoteInside_quote_cons] at h
          rw [ih (List.append_cancel_left h)]
        · subst hc
          rw [quoteInside_cons_ne hd] at h
          exact absurd (List.cons.inj h).1.symm hd
      · by_cases hd : d = '\''
        · subst hd
          rw [quoteInside_cons_ne hc] at h
          exact absurd (List.cons.inj h).1 hc
        · rw [quoteInside_cons_ne hc, quoteInside_cons_ne hd] at h
          obtain ⟨rfl, htail⟩ := List.cons.inj h
          rw [ih htail]

theorem plain_ne_quoted (h : cs.all isPlain = true) (ds : List Char) :
    cs ≠ '\'' :: quoteInside ds ++ ['\''] := by
  rintro rfl
  have hquote := List.all_eq_true.1 h '\'' List.mem_cons_self
  exact absurd hquote (by decide)

theorem quoteChars_injective (h : quoteChars cs = quoteChars ds) : cs = ds := by
  unfold quoteChars at h
  split at h
  · rename_i hcs
    split at h
    · exact h
    · exact absurd h (plain_ne_quoted hcs.2 ds)
  · split at h
    · rename_i hds
      exact absurd h.symm (plain_ne_quoted hds.2 cs)
    · exact quoteInside_injective (List.append_cancel_right (List.cons.inj h).2)

theorem toList_commandLine (words : List String) :
    (commandLine words).toList = [' '].intercalate (words.map fun w => quoteChars w.toList) := by
  rw [commandLine, String.toList_intercalate, List.map_map]
  congr 1
  apply List.map_congr_left
  intro w _
  exact String.toList_ofList

theorem intercalate_cons (cs : List Char) (ws : List (List Char)) :
    [' '].intercalate (cs :: ws) = cs ++ ws.flatMap (' ' :: ·) := by
  induction ws generalizing cs with
  | nil => simp
  | cons w ws ih => rw [List.intercalate_cons_cons, ih]; simp

theorem intercalate_append_cons (vs ws : List (List Char)) (cs : List Char) :
    [' '].intercalate (vs ++ cs :: ws) =
      vs.flatMap (· ++ [' ']) ++ (cs ++ ws.flatMap (' ' :: ·)) := by
  induction vs with
  | nil => exact intercalate_cons cs ws
  | cons v vs ih =>
    rw [List.cons_append, List.intercalate_cons_of_ne_nil (by simp), ih]
    simp

/-- Command lines that differ in one word only are different. -/
theorem commandLine_inj_at (before after : List String) :
    commandLine (before ++ x :: after) = commandLine (before ++ y :: after) ↔ x = y := by
  constructor
  · intro h
    have hchars := congrArg String.toList h
    rw [toList_commandLine, toList_commandLine, List.map_append, List.map_append, List.map_cons,
      List.map_cons, intercalate_append_cons, intercalate_append_cons] at hchars
    have hquoted := List.append_cancel_right (List.append_cancel_left hchars)
    exact String.toList_injective (quoteChars_injective hquoted)
  · rintro rfl
    rfl

end DumpWorkbench.Shell
