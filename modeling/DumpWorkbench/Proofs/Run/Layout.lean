import DumpWorkbench.Proofs.World.Actions

namespace DumpWorkbench

open Simulation

/-- Makes directories one after the other, up to the first that cannot be made. -/
def Tree.makeEach (t : Tree) (directory : Location) : List Path → Except Fault Unit × Tree
  | [] => (.ok (), t)
  | p :: ps =>
    match t.makeDirectories directory p with
    | (.ok _, t) => t.makeEach directory ps
    | (.error e, t) => (.error (.filesystem p e), t)

namespace Simulation

variable {α : Type} {w : World} {t : Tree} {e : Fault} {base : Path}

theorem outcome_makeEach_ok {ps : List Path} (h : w.tree.makeEach w.directory ps = (.ok (), t))
    (x : Action α) :
    outcome (ps.foldr (fun p x => do Workspace.makeDirectory p; x) x) w =
      outcome x { w with tree := t } := by
  induction ps generalizing w with
  | nil =>
    obtain ⟨-, rfl⟩ := Prod.mk.inj h
    rfl
  | cons p ps ih =>
    have hmake := outcome_makeDirectory p w
    unfold Tree.makeEach at h
    generalize w.tree.makeDirectories w.directory p = made at h hmake
    obtain ⟨result, left⟩ := made
    cases result with
    | error e => cases h
    | ok _ =>
      have hok : (outcome (Workspace.makeDirectory p) w).1 = .ok () := by
        rw [hmake]
        rfl
      rw [List.foldr_cons, outcome_bind_ok hok, hmake]
      exact ih h

theorem outcome_makeEach_error {ps : List Path}
    (h : w.tree.makeEach w.directory ps = (.error e, t)) (x : Action α) :
    outcome (ps.foldr (fun p x => do Workspace.makeDirectory p; x) x) w =
      (.error e, { w with tree := t }) := by
  induction ps generalizing w with
  | nil => cases h
  | cons p ps ih =>
    have hmake := outcome_makeDirectory p w
    unfold Tree.makeEach at h
    generalize w.tree.makeDirectories w.directory p = made at h hmake
    obtain ⟨result, left⟩ := made
    cases result with
    | error cause =>
      obtain ⟨hresult, rfl⟩ := Prod.mk.inj h
      obtain rfl := Except.error.inj hresult
      have herror : (outcome (Workspace.makeDirectory p) w).1 = .error (.filesystem p cause) := by
        rw [hmake]
        rfl
      rw [List.foldr_cons, outcome_bind_error herror, hmake]
    | ok _ =>
      have hok : (outcome (Workspace.makeDirectory p) w).1 = .ok () := by
        rw [hmake]
        rfl
      rw [List.foldr_cons, outcome_bind_ok hok, hmake]
      exact ih h

end Simulation

namespace Run

variable {base : Path}

def laid (base : Path) (w : World) : Except Fault Unit × Tree :=
  w.tree.makeEach w.directory (Workspace.under base).directories

theorem outcome_ensure (base : Path) (w : World) :
    (outcome (Workspace.ensure base) w).1 = (laid base w).1.map (fun _ => .under base) ∧
      w.Leaves [] (laid base w).2 (outcome (Workspace.ensure base) w).2 := by
  have hensure : (Workspace.ensure base : Action Workspace) =
      (Workspace.under base).directories.foldr (fun p x => do Workspace.makeDirectory p; x) (do
        Host.log (m := Simulation) ⟨.debug, "dumpsift::workspace::layout",
          s!"Workspace layout ready under {(Workspace.under base).base.text}"⟩
        return .under base) := rfl
  rw [hensure]
  have hlaid : laid base w = ((laid base w).1, (laid base w).2) := rfl
  cases h : (laid base w).1 with
  | error e =>
    rw [h] at hlaid
    rw [outcome_makeEach_error hlaid]
    exact ⟨rfl, World.Leaves.withTree w _⟩
  | ok _ =>
    rw [h] at hlaid
    rw [outcome_makeEach_ok hlaid, outcome_bind_lift]
    exact ⟨rfl, (World.Leaves.withTree w _).quiet (quiet_log _ _)⟩

theorem laid_congr {w w' : World} (h : w.Leaves [] w.tree w') : laid base w' = laid base w := by
  rw [laid, h.tree, h.directory]
  rfl

theorem outcome_createLayout (r : Run) (hbase : r.base = .ok base) (w : World) :
    (outcome r.createLayout w).1 =
        (laid base w).1.map (fun _ => Record.layout (Workspace.under base).base ⟨0⟩) ∧
      w.Leaves [] (laid base w).2 (outcome r.createLayout w).2 := by
  unfold createLayout
  rw [outcome_bind_lift, hbase, outcome_bind_except_ok, outcome_bind_lift]
  -- What is logged first changes no directory.
  have hstart : w.Leaves [] w.tree ((log .info s!"Creating output structure under {base.text}" :
      Simulation Unit) (Host.clock (m := Simulation) w).2).2 := quiet_log _ w
  generalize ((log .info s!"Creating output structure under {base.text}" : Simulation Unit)
    (Host.clock (m := Simulation) w).2).2 = started at hstart ⊢
  obtain ⟨hresult, hleft⟩ := outcome_logged
    (fun e => s!"Failed creating output structure under {base.text}: {e.message}")
    (outcome_ensure base started)
  rw [laid_congr hstart] at hresult hleft
  cases hlaid : (laid base w).1 with
  | error e =>
    rw [hlaid] at hresult
    rw [outcome_bind_error hresult]
    exact ⟨rfl, hstart.after_quiet hleft⟩
  | ok _ =>
    rw [hlaid] at hresult
    rw [outcome_bind_ok hresult, outcome_bind_lift, outcome_bind_lift, outcome_pure]
    exact ⟨rfl, (hstart.after_quiet hleft).quiet (quiet_notify _ _ _)⟩

end Run
end DumpWorkbench
