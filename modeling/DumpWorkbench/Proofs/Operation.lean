import DumpWorkbench.Operation
import Mathlib.Data.List.Basic

namespace DumpWorkbench.Operation

variable {o : Operation} {a b requested : List Operation}

theorem place_inj {o p : Operation} (h : o.place = p.place) : o = p := by
  cases o <;> cases p <;> first | rfl | cases h

/-- The items before, of which the last stands first, and behind them what is left of `o :: as`. -/
def kept (before : List Operation) (o : Operation) (as : List Operation) : List Operation :=
  List.eraseRepsBy.loop (· == ·) o as before

theorem kept_cons (before : List Operation) (o p : Operation) (as : List Operation) :
    kept before o (p :: as) = if o = p then kept before o as else kept (o :: before) p as := by
  unfold kept
  conv_lhs => unfold List.eraseRepsBy.loop
  split_ifs with h
  · rw [beq_iff_eq.2 h]
  · rw [beq_eq_false_iff_ne.2 h]

theorem kept_eq (before : List Operation) (o : Operation) (as : List Operation) :
    kept before o as = before.reverse ++ (o :: as).eraseReps := by
  have hself (o : Operation) (as : List Operation) : (o :: as).eraseReps = kept [] o as := rfl
  rw [hself]
  induction as generalizing o before with
  | nil => simp [kept, List.eraseRepsBy.loop]
  | cons p as ih =>
    rw [kept_cons, kept_cons]
    split_ifs
    · exact ih before o
    · rw [ih (o :: before), ih [o], List.reverse_cons, List.append_assoc]
      rfl

theorem eraseReps_cons_cons (o p : Operation) (as : List Operation) :
    (o :: p :: as).eraseReps = if o = p then (o :: as).eraseReps else o :: (p :: as).eraseReps := by
  refine (kept_cons [] o p as).trans ?_
  rw [kept_eq, kept_eq]
  rfl

theorem mem_eraseReps : o ∈ a.eraseReps ↔ o ∈ a := by
  cases a with
  | nil => rfl
  | cons p a =>
    induction a generalizing p with
    | nil => rfl
    | cons q a ih =>
      rw [eraseReps_cons_cons]
      split_ifs with h
      · rw [ih, h]
        simp
      · rw [List.mem_cons, ih, List.mem_cons (b := p)]

/-- Where the places do not descend, equal operations are neighbours. -/
theorem ascending_eraseReps (h : a.Pairwise fun o p => o.place ≤ p.place) :
    a.eraseReps.Pairwise fun o p => o.place < p.place := by
  cases a with
  | nil => exact .nil
  | cons p a =>
    induction a generalizing p with
    | nil => exact List.pairwise_singleton _ p
    | cons q a ih =>
      obtain ⟨hp, hq⟩ := List.pairwise_cons.1 h
      rw [eraseReps_cons_cons]
      split_ifs with hpq
      · exact ih p (hpq ▸ hq)
      · refine List.pairwise_cons.2 ⟨fun o ho => ?_, ih q hq⟩
        have hne : p.place ≠ q.place := fun heq => hpq (place_inj heq)
        have hle := hp q List.mem_cons_self
        have hqo : q.place ≤ o.place := by
          obtain rfl | ho := List.mem_cons.1 (mem_eraseReps.1 ho)
          · exact Nat.le_refl _
          · exact (List.pairwise_cons.1 hq).1 o ho
        omega

theorem ascending_ordered (requested : List Operation) :
    (ordered requested).Pairwise fun o p => o.place < p.place := by
  have hsorted : (requested.mergeSort fun o p => o.place ≤ p.place).Pairwise
      fun o p => decide (o.place ≤ p.place) = true := by
    apply List.pairwise_mergeSort
    · intro o p q hop hpq
      simp only [decide_eq_true_eq] at hop hpq ⊢
      omega
    · intro o p
      simpa using Nat.le_total o.place p.place
  exact ascending_eraseReps (by simpa using hsorted)

theorem mem_ordered (requested : List Operation) : o ∈ ordered requested ↔ o ∈ requested := by
  rw [ordered, mem_eraseReps, List.mem_mergeSort]

/-- A run takes the operations that were asked for out of all. -/
theorem ordered_eq_filter (requested : List Operation) :
    ordered requested = all.filter (requested.contains ·) := by
  have hall : all.Pairwise fun o p => o.place < p.place := by decide
  refine List.Perm.eq_of_pairwise (fun o p _ _ hop hpo => absurd hop (Nat.lt_asymm hpo))
    (ascending_ordered requested) (hall.filter _) ?_
  rw [List.perm_ext_iff_of_nodup]
  · intro o
    have ho : o ∈ all := by cases o <;> decide
    simp [mem_ordered, ho]
  · exact (ascending_ordered requested).imp fun h heq => Nat.ne_of_lt h (congrArg place heq)
  · exact (hall.filter _).imp fun h heq => Nat.ne_of_lt h (congrArg place heq)

theorem ordered_sublist (requested : List Operation) : (ordered requested).Sublist all := by
  rw [ordered_eq_filter]
  exact List.filter_sublist

theorem ordered_congr (h : ∀ o, o ∈ a ↔ o ∈ b) : ordered a = ordered b := by
  rw [ordered_eq_filter, ordered_eq_filter]
  refine List.filter_congr fun o _ => ?_
  rw [Bool.eq_iff_iff, List.contains_iff_mem, List.contains_iff_mem]
  exact h o

theorem ordered_stages (hmap : .mapExtraction ∈ requested) (hsift : .sift ∈ requested) :
    ordered requested =
      (if .createLayout ∈ requested then [.createLayout] else []) ++ [.mapExtraction, .sift] := by
  rw [ordered_eq_filter, all]
  by_cases hlayout : .createLayout ∈ requested
  · simp [hlayout, hmap, hsift]
  · simp [hlayout, hmap, hsift]

end DumpWorkbench.Operation
