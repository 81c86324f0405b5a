import DumpWorkbench.Proofs.Program.Start
import DumpWorkbench.Proofs.Run.Execution

namespace DumpWorkbench

open Simulation

namespace Run

variable {r : Run} {base : Path} {ws : Workspace} {name : String} {op : Operation}
  {requested : List Operation} {w : World} {e : Fault}

theorem exitCode_of_laid (h : (laid base w).1 = .error e) : e.exitCode ≠ 2 := by
  unfold laid at h
  generalize (Workspace.under base).directories = ps, w.tree = t at h
  induction ps generalizing t with
  | nil => cases h
  | cons p ps ih =>
    unfold Tree.makeEach at h
    split at h
    · exact ih _ h
    · obtain rfl := Except.error.inj h
      simp [Fault.exitCode]

theorem exitCode_of_settled {directory : Location} {l : Except IoFault Exit × Tree}
    (h : (r.settled ws name directory l).1 = .error e) : e.exitCode ≠ 2 := by
  obtain ⟨finished, t⟩ := l
  cases finished with
  | error cause =>
    obtain rfl := Except.error.inj h
    simp [Fault.exitCode]
  | ok x =>
    unfold settled at h
    dsimp only at h
    split at h
    · rename_i refusal hrefusal
      obtain rfl := Except.error.inj h
      cases refusal <;> simp [Fault.ofRefusal, Fault.exitCode]
    · split at h
      · obtain rfl := Except.error.inj h
        simp [Fault.exitCode]
      · cases h

theorem exitCode_of_sifted (h : (r.sifted base name w).1 = .error e) : e.exitCode ≠ 2 := by
  cases hmade : (madeResults base name w).1 with
  | error cause =>
    rw [sifted_of_error r hmade] at h
    obtain rfl := Except.error.inj h
    simp [Fault.exitCode]
  | ok _ =>
    rw [sifted_of_made r hmade] at h
    generalize (launched (r.siftPlan base name).command (withResults base name w)).1 = l at h
    cases l with
    | error cause =>
      obtain rfl := Except.error.inj h
      simp [Fault.exitCode]
    | ok x => cases h

theorem exitCode_of_perform (hbase : r.base = .ok base)
    (h : (outcome (r.perform (.under base) name op) w).1 = .error e) : e.exitCode ≠ 2 := by
  cases op with
  | createLayout =>
    exact exitCode_of_laid (map_eq_error.1 ((outcome_createLayout r hbase w).1.symm.trans h))
  | mapExtraction =>
    exact exitCode_of_settled ((outcome_mapExtraction r (.under base) name w).1.symm.trans h)
  | sift => exact exitCode_of_sifted (map_eq_error.1 ((outcome_sift r hbase name w).1.symm.trans h))

theorem exitCode_of_execute (hname : checkName name = .ok ()) (hbase : r.base = .ok base)
    (h : (outcome (r.execute name requested) w).1 = .error e) : e.exitCode ≠ 2 := by
  rw [outcome_execute hname hbase] at h
  obtain ⟨done, records, left, -, ⟨-, hall⟩ | ⟨op, later, cause, -, hfails, hstop⟩⟩ :=
    outcome_mapM r (.under base) name (Operation.ordered requested) w
  · rw [outcome_bind_ok (congrArg Prod.fst hall)] at h
    cases h
  · rw [outcome_bind_error (congrArg Prod.fst hstop)] at h
    obtain rfl := Except.error.inj h
    exact exitCode_of_perform hbase hfails

end Run

namespace Program

variable {o : Options} {r : Run} {arguments : List String} {w w' : World}

theorem exitCode_of_saveSample {p : Path} {e : Fault}
    (h : (outcome (Settings.saveSample p) w).1 = .error e) : e.exitCode ≠ 2 := by
  unfold Settings.saveSample Settings.write at h
  rw [outcome_bind_lift] at h
  generalize (Files.writeFile p (Utf8.encode Settings.sample) : Simulation _) w = written at h
  obtain ⟨result, left⟩ := written
  cases result with
  | ok _ => cases h
  | error cause =>
    obtain rfl := Except.error.inj h
    simp [Fault.exitCode]

theorem writeSample_ne_two (o : Options) (w : World) :
    ((writeSample o : Simulation Nat) w).1 ≠ 2 := by
  unfold writeSample
  rw [bind_apply, run_apply]
  cases hsave : (outcome (Settings.saveSample (o.config.getD defaultFile)) w).1 with
  | ok _ => exact (by decide : exitSuccess ≠ 2)
  | error e => exact exitCode_of_saveSample hsave

theorem perform_ne_two {name : String} {ops : List Operation} {w : World}
    (h : ∀ e, (outcome (r.execute name ops) w).1 = .error e → e.exitCode ≠ 2) :
    ((perform r name ops : Simulation Nat) w).1 ≠ 2 := by
  unfold perform
  rw [bind_apply, run_apply]
  cases hended : (outcome (r.execute name ops) w).1 with
  | ok report =>
    change (if r.console.panics (.report report) then exitPanic else exitSuccess) ≠ 2
    split <;> decide
  | error e => exact h e hended

theorem logged_ne_two (hread : Options.read arguments = .ok o)
    (hgenerate : o.generateConfig = false) (hrun : (outcome o.run w).1 = .ok r) (w' : World) :
    ((logged o r : Simulation Nat) w').1 ≠ 2 := by
  obtain ⟨name, base, hname, hadmitted, hbase⟩ := admitted_of_read hread hgenerate hrun
  unfold logged
  rw [hname]
  dsimp only
  split
  · rw [preview_eq_success (Run.plan_of_base hadmitted hbase _)]
    decide
  · exact perform_ne_two fun e => Run.exitCode_of_execute hadmitted hbase

theorem quiet_refuse (e : Options.Refusal) : Quiet (refuse e : Simulation Nat) :=
  (quiet_record rfl).bind fun _ => quiet_pure _

theorem leaves_follow (hread : Options.read arguments = .ok o)
    (h : ((follow o : Simulation Nat) w).1 = 2) :
    w.Leaves [] w.tree ((follow o : Simulation Nat) w).2 := by
  cases hgenerate : o.generateConfig with
  | true =>
    rw [follow_of_generate hgenerate] at h
    exact absurd h (writeSample_ne_two o w)
  | false =>
    cases hrun : (outcome o.run w).1 with
    | error e =>
      rw [follow_of_fault hgenerate hrun]
      exact quiet_fail _ _ w
    | ok r =>
      cases hstarted : (started r w).1 with
      | error e =>
        rw [follow_of_unopened hgenerate hrun hstarted] at h
        cases h
      | ok _ =>
        rw [follow_of_opened hgenerate hrun hstarted] at h
        exact absurd h (logged_ne_two hread hgenerate hrun _)

/-- A program that ends with the exit code of a refusal has launched nothing and left the tree as it
was. An admitted name is not refused again by a plan or by a run, and once the settings are found
there is nothing left to refuse. -/
theorem rejected_leaves_no_trace (arguments : List String) (w : World) :
    let ended := (run arguments : Simulation Nat) w
    (ended.1 = 2 → w.Leaves [] w.tree ended.2) ∧
    (∀ given name, DumpName.parse given = .ok name →
      Run.checkName name = .ok () ∧
      ∀ (r : Run) (base : Path) (requested : List Operation), r.base = .ok base →
        (∃ entries, r.plan name requested = .ok entries) ∧
        ∀ w' e, (outcome (r.execute name requested) w').1 = .error e → e.exitCode ≠ 2) ∧
    (∀ o r, Options.read arguments = .ok o → o.generateConfig = false →
      (outcome o.run w).1 = .ok r → ∀ w', ((logged o r : Simulation Nat) w').1 ≠ 2) := by
  refine ⟨fun hcode => ?_, fun given name hparse => ?_, fun o r hread hgenerate hrun w' =>
    logged_ne_two hread hgenerate hrun w'⟩
  · unfold run at hcode ⊢
    cases hread : Options.read arguments with
    | error e => exact quiet_refuse e w
    | ok o =>
      rw [hread] at hcode
      exact leaves_follow hread hcode
  · have hadmitted := Run.checkName_of_check (DumpName.check_of_parse hparse)
    exact ⟨hadmitted, fun r base requested hbase => ⟨Run.plan_of_base hadmitted hbase requested,
      fun w' e => Run.exitCode_of_execute hadmitted hbase⟩⟩

/-- A command line without a name is refused; with a name, and with space around it, it is not
refused any more after its settings were found. -/
theorem rejected_leaves_no_trace_nameless :
    let nameless := ["--radare", "--base-dir", "work"]
    let named := nameless ++ ["--bin-name", " crash1 "]
    let ended := (run nameless : Simulation Nat) World.bare
    let o : Options := { radare := true, baseDir := some ⟨"work"⟩, binName := some "crash1" }
    ended.1 = 2 ∧ World.bare.Leaves [] .empty ended.2 ∧ Options.read named = .ok o ∧
    ∃ r, (outcome o.run World.bare).1 = .ok r ∧ r.settings.baseDirectory = some ⟨"/work"⟩ ∧
      ∀ w', ((logged o r : Simulation Nat) w').1 ≠ 2 := by
  intro nameless named ended o
  have hcode : ended.1 = 2 := by decide +kernel
  have hread : Options.read named = .ok o := by decide +kernel
  have hfound : (outcome o.run World.bare).1.toOption.map (·.settings.baseDirectory) =
      some (some ⟨"/work"⟩) := by decide +kernel
  refine ⟨hcode, (rejected_leaves_no_trace nameless World.bare).1 hcode, hread, ?_⟩
  cases hrun : (outcome o.run World.bare).1 with
  | error e =>
    rw [hrun] at hfound
    cases hfound
  | ok r =>
    rw [hrun] at hfound
    exact ⟨r, rfl, Option.some.inj hfound,
      (rejected_leaves_no_trace named World.bare).2.2 o r hread rfl hrun⟩

end Program
end DumpWorkbench
