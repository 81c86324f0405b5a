import DumpWorkbench.Console
import DumpWorkbench.Proofs.Duration

namespace DumpWorkbench.Report

open Duration (Told roughly second)

variable {r s : Report}

def nanoseconds (r : Report) : Nat :=
  (r.records.map fun x => x.elapsed.seconds * second + x.elapsed.fraction).sum

theorem nanoseconds_eq (r : Report) :
    r.nanoseconds = ((r.records.map (·.elapsed)).map (·.nanoseconds)).sum := by
  rw [nanoseconds, List.map_map]
  congr 1
  exact List.map_congr_left fun x _ => x.elapsed.seconds_add_fraction

theorem elapsed?_eq (r : Report) :
    r.elapsed? = if r.nanoseconds < 2 ^ 64 * second then some ⟨r.nanoseconds⟩ else none := by
  rw [elapsed?, Duration.sum?_eq, nanoseconds_eq]

theorem nanoseconds_of_perm (h : s.records.Perm r.records) : s.nanoseconds = r.nanoseconds :=
  (h.map _).sum_eq

/-- A report for people ends with the rough text of its total time. -/
theorem report_total {c : Console} {total : Duration} (hmode : c.mode = .human)
    (hquiet : c.quiet = false) (h : r.elapsed? = some total) :
    ∃ before, c.report r = before ++ Console.out ("Total time: " ++ total.rough) := by
  have hline : Console.totalLine "Total time: " Duration.rough r =
      Console.out ("Total time: " ++ total.rough) := by
    rw [Console.totalLine, h]
  rw [Console.report, hmode]
  dsimp only
  rw [hquiet, if_neg Bool.false_ne_true, Console.humanReport, hline]
  exact ⟨_, rfl⟩

theorem panics_report_iff (c : Console) (r : Report) :
    c.panics (.report r) = true ↔ c.tellsTotal = true ∧ 2 ^ 64 * second ≤ r.nanoseconds := by
  have hnone : r.elapsed?.isNone = true ↔ 2 ^ 64 * second ≤ r.nanoseconds := by
    rw [elapsed?_eq]
    split <;> simp <;> omega
  rw [Console.panics, Bool.and_eq_true, hnone]

/-- There is no total time exactly if the seconds of the exact sum do not fit into 64 bits, and a
report that should tell it ends in a panic then. Else the total is that sum, whatever the order of
the records. What a report for people says of it tells the sum to whole seconds, or below one second
to milliseconds, and tells nothing else. -/
theorem total_exact (r : Report) :
    (r.elapsed? = none ↔ 2 ^ 64 * second ≤ r.nanoseconds) ∧
    (∀ c : Console, c.panics (.report r) = true ↔
      c.tellsTotal = true ∧ 2 ^ 64 * second ≤ r.nanoseconds) ∧
    (∀ s : Report, s.records.Perm r.records → s.elapsed? = r.elapsed?) ∧
    ∀ total, r.elapsed? = some total →
      total.seconds * second + total.fraction = r.nanoseconds ∧ total.seconds < 2 ^ 64 ∧
      total.fraction < second ∧
      ∀ c : Console, c.mode = .human → c.quiet = false →
        ∃ before text, c.report r = before ++ Console.out ("Total time: " ++ text) ∧
          ∀ x, Told text x ↔ x = roughly r.nanoseconds := by
  have hsum := elapsed?_eq r
  refine ⟨?_, fun c => panics_report_iff c r, fun s hs => ?_, fun total htotal => ?_⟩
  · rw [hsum, ite_eq_right_iff]
    simp
  · rw [elapsed?_eq s, nanoseconds_of_perm hs, hsum]
  · rw [hsum] at htotal
    split at htotal
    · rename_i hlt
      obtain rfl := Option.some.inj htotal
      refine ⟨Duration.seconds_add_fraction _, ?_, Duration.fraction_lt_second _,
        fun c hmode hquiet => ?_⟩
      · exact (Nat.div_lt_iff_lt_mul (by decide)).2 hlt
      · obtain ⟨before, hreport⟩ := report_total hmode hquiet (elapsed?_eq r ▸ if_pos hlt)
        exact ⟨before, _, hreport, fun x => Duration.told_rough_iff _⟩
    · cases htotal

end DumpWorkbench.Report
