import DumpWorkbench.Proofs.Outcome
import DumpWorkbench.Proofs.World.Actions

namespace DumpWorkbench

open Simulation

namespace Run

variable {base : Path} {name : String} {w : World} {e : IoFault}

def madeResults (base : Path) (name : String) (w : World) : Except IoFault Unit × Tree :=
  w.tree.makeDirectories w.directory ((Workspace.under base).searchPath name)

def withResults (base : Path) (name : String) (w : World) : World :=
  { w with tree := (madeResults base name w).2 }

theorem leaves_withResults (base : Path) (name : String) (w : World) :
    w.Leaves [] (madeResults base name w).2 (withResults base name w) :=
  World.Leaves.withTree w _

theorem madeResults_congr {w' : World} (h : w.Leaves [] w.tree w') :
    madeResults base name w' = madeResults base name w := by
  rw [madeResults, h.tree, h.directory]
  rfl

/-- The plan of a sift, with its directory of results made. -/
def siftPlan (r : Run) (base : Path) (name : String) : SiftPlan :=
  .into ((Workspace.under base).searchPath name) (.under base) r.settings.sifter name
    r.settings.extension r.settings.threads.toNat

def prepared (r : Run) (base : Path) (name : String) : Action SiftPlan :=
  SiftPlan.prepare (.under base) r.settings.sifter name r.settings.extension
    r.settings.threads.toNat

theorem outcome_prepared (r : Run) (base : Path) (name : String) (w : World) :
    outcome (r.prepared base name) w =
      (((madeResults base name w).1.mapError
          (.filesystem ((Workspace.under base).searchPath name))).map
            fun _ => r.siftPlan base name,
        withResults base name w) := by
  have hmake := outcome_makeSearchPath (.under base) name w
  unfold prepared SiftPlan.prepare
  rw [outcome_bind, hmake]
  change _ = (((madeResults base name w).1.mapError _).map _, _)
  unfold madeResults
  cases (w.tree.makeDirectories w.directory ((Workspace.under base).searchPath name)).1 <;> rfl

theorem outcome_prepared_of_made (r : Run) (h : (madeResults base name w).1 = .ok ()) :
    outcome (r.prepared base name) w = (.ok (r.siftPlan base name), withResults base name w) := by
  rw [outcome_prepared, h]
  rfl

theorem eq_siftPlan_of_prepared {r : Run} {plan : SiftPlan} {w' : World}
    (h : outcome (r.prepared base name) w = (.ok plan, w')) :
    (madeResults base name w).1 = .ok () ∧ plan = r.siftPlan base name := by
  rw [outcome_prepared] at h
  obtain ⟨u, hu, hplan⟩ := map_eq_ok.1 (Prod.mk.inj h).1
  refine ⟨?_, hplan.symm⟩
  cases hmade : (madeResults base name w).1 with
  | ok _ => rfl
  | error e =>
    rw [hmade] at hu
    cases hu

def sifted (r : Run) (base : Path) (name : String) (w : World) :
    Except Fault Tool.Output × List (List String) × Tree :=
  match madeResults base name w with
  | (.error e, t) => (.error (.filesystem ((Workspace.under base).searchPath name) e), [], t)
  | (.ok _, _) =>
    (received (r.siftPlan base name).command
        (launched (r.siftPlan base name).command (withResults base name w)).1,
      [(r.siftPlan base name).command.words],
      (launched (r.siftPlan base name).command (withResults base name w)).2)

theorem launched_withResults (c : Tool.Command) {w' : World} (h : w.Leaves [] w.tree w') :
    launched c (withResults base name w') = launched c (withResults base name w) := by
  simp only [launched, withResults, madeResults_congr h, h.directory, h.launcher, h.environment]

theorem sifted_of_error (r : Run) (h : (madeResults base name w).1 = .error e) :
    r.sifted base name w = (.error (.filesystem ((Workspace.under base).searchPath name) e), [],
      (madeResults base name w).2) := by
  unfold sifted
  generalize madeResults base name w = made at h ⊢
  obtain ⟨result, t⟩ := made
  obtain rfl : result = .error e := h
  rfl

/-- Where the directory of results is made, the sifter is launched once. -/
theorem sifted_of_made (r : Run) (h : (madeResults base name w).1 = .ok ()) :
    r.sifted base name w = (received (r.siftPlan base name).command
        (launched (r.siftPlan base name).command (withResults base name w)).1,
      [(r.siftPlan base name).command.words],
      (launched (r.siftPlan base name).command (withResults base name w)).2) := by
  unfold sifted
  generalize madeResults base name w = made at h ⊢
  obtain ⟨result, t⟩ := made
  obtain rfl : result = .ok () := h
  rfl

theorem sifted_congr (r : Run) {w' : World} (h : w.Leaves [] w.tree w') :
    r.sifted base name w' = r.sifted base name w := by
  unfold sifted
  rw [madeResults_congr h, launched_withResults _ h]

theorem outcome_runSifter (r : Run) (base : Path) (name : String) (w : World) :
    let x := runSifter base r.settings.sifter name r.settings.extension r.settings.threads.toNat
    (outcome x w).1 = (r.sifted base name w).1 ∧
      w.Leaves (r.sifted base name w).2.1 (r.sifted base name w).2.2 (outcome x w).2 := by
  intro x
  have hx : outcome x w = outcome (r.prepared base name >>= fun plan =>
    liftM ((plan.command.withProgress true).run : Simulation _) >>= fun ran => liftM ran.1) w := rfl
  have hmade := leaves_withResults base name w
  rw [hx, outcome_bind, outcome_prepared]
  cases h : (madeResults base name w).1 with
  | error e =>
    rw [sifted_of_error r h]
    exact ⟨rfl, hmade⟩
  | ok _ =>
    rw [sifted_of_made r h]
    let c := (r.siftPlan base name).command.withProgress true
    obtain ⟨hresult, hleft⟩ := run_command c (withResults base name w)
    change (outcome (liftM (c.run : Simulation _) >>= fun ran => liftM ran.1)
      (withResults base name w)).1 = _ ∧ w.Leaves _ _ (outcome (liftM (c.run : Simulation _) >>=
        fun ran => liftM ran.1) (withResults base name w)).2
    rw [outcome_bind_lift, outcome_except]
    exact ⟨hresult, hmade.trans hleft⟩

theorem outcome_sift (r : Run) (hbase : r.base = .ok base) (name : String) (w : World) :
    (outcome (r.sift name) w).1 =
        (r.sifted base name w).1.map (fun o =>
          Record.ofTool .sift o (some ((Workspace.under base).announcedSearchPath name))) ∧
      w.Leaves (r.sifted base name w).2.1 (r.sifted base name w).2.2
        (outcome (r.sift name) w).2 := by
  unfold sift
  rw [outcome_began, hbase, outcome_bind_except_ok]
  have hstart := leaves_began r.console
    s!"Sifting through {name} for pointers, lua_Page, and regex"
    (.start s!"Sifting through {name}") w
  generalize began r.console s!"Sifting through {name} for pointers, lua_Page, and regex"
    (.start s!"Sifting through {name}") w = started at hstart ⊢
  obtain ⟨hresult, hleft⟩ := outcome_logged
    (fun e => s!"Failed sifting through {name}: {e.message}")
    (outcome_runSifter r base name started)
  rw [sifted_congr r hstart] at hresult hleft
  cases hsifted : (r.sifted base name w).1 with
  | error e =>
    rw [outcome_bind_error (hresult.trans hsifted)]
    exact ⟨rfl, hstart.after_quiet hleft⟩
  | ok o =>
    have hlines : Quiet ((linesOf (Utf8.decodeLossy o.stdout).toList).forM fun line =>
        (log .debug ("luau-sifter: " ++ String.ofList line) : Simulation Unit)) :=
      quiet_forM (fun _ => quiet_log _) _
    rw [outcome_bind_ok (hresult.trans hsifted)]
    -- What follows only reports, in whatever world the sifter has left.
    generalize (outcome (logged _ _) started).2 = finished at hleft ⊢
    rw [outcome_bind_forM, outcome_bind_lift]
    dsimp only
    rw [outcome_bind_lift, outcome_pure]
    have hread := (hstart.after_quiet hleft).quiet (hlines finished)
    dsimp only
    exact ⟨rfl, (hread.quiet (quiet_log _ _)).quiet (quiet_notify _ _ _)⟩

end Run
end DumpWorkbench
