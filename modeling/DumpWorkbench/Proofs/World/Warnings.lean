import DumpWorkbench.Proofs.World.Comparison
import Mathlib.Data.List.Basic

namespace DumpWorkbench

def Event.warning? : Event → Option Log.Entry
  | .logged e => if e.severity = .warn then some e else none
  | _ => none

namespace World

variable {w w' w'' : World}

def warnings (w : World) : List Log.Entry := w.events.filterMap Event.warning?

theorem warnings_record (w : World) (e : Event) :
    (w.record e).warnings = w.warnings ++ e.warning?.toList := by
  change (w.events ++ [e]).filterMap Event.warning? = _
  rw [List.filterMap_append, List.filterMap_cons, List.filterMap_nil]
  cases e.warning? <;> rfl

theorem Alike.warnings (h : w.Alike .byDeeds w') : w.warnings = w'.warnings := by
  have hseen (events : List Event) :
      (events.filter View.byDeeds.sees).filterMap Event.warning? =
        events.filterMap Event.warning? := by
    rw [List.filterMap_filter]
    refine List.filterMap_congr fun e _ => ?_
    cases e <;> rfl
  unfold World.warnings
  rw [← hseen w.events, h.events, hseen]

/-- The second world is what calls leave of the first that neither launch anything nor warn. -/
structure Calm (w w' : World) : Prop where
  leaves : w.Leaves [] w'.tree w'
  warnings : w'.warnings = w.warnings

namespace Calm

theorem refl (w : World) : w.Calm w := ⟨.refl w, rfl⟩

theorem trans (h : w.Calm w') (h' : w'.Calm w'') : w.Calm w'' :=
  ⟨h.leaves.change h'.leaves, h'.warnings.trans h.warnings⟩

theorem withTree (w : World) (t : Tree) : w.Calm { w with tree := t } := ⟨.withTree w t, rfl⟩

theorem record (w : World) {e : Event} (hlaunch : e.launch? = none) (hwarning : e.warning? = none) :
    w.Calm (w.record e) := by
  refine ⟨Simulation.leaves_record w hlaunch, ?_⟩
  rw [warnings_record, hwarning]
  exact List.append_nil _

end Calm
end World

/-- What is warned of at the end of a run: an exit code other than zero, or none at all. -/
def Tool.Output.warnings (o : Tool.Output) (tool : String) : List Log.Entry :=
  if o.success then [] else [⟨.warn, Tool.logTarget, Tool.exitWarning tool o.exitCode⟩]

namespace Simulation

variable {α β : Type}

/-- A call that neither launches anything nor warns. -/
def Calms (x : Simulation α) : Prop := Keeps World.Calm x

theorem calms_pure (a : α) : Calms (pure a) := fun w => .refl w

theorem Calms.bind {x : Simulation α} {f : α → Simulation β} (hx : Calms x)
    (hf : ∀ a, Calms (f a)) : Calms (x >>= f) :=
  Keeps.bind (R := World.Calm) (fun _ _ _ => World.Calm.trans) hx hf

theorem calms_forM {f : α → Simulation PUnit} (hf : ∀ a, Calms (f a)) (as : List α) :
    Calms (as.forM f) :=
  keeps_forM (R := World.Calm) (fun _ _ _ => World.Calm.trans) World.Calm.refl hf as

theorem calms_onTree (calls : Tree.Calls α) : Calms fun w => w.onTree calls :=
  fun w => .withTree w _

theorem warnings_log (w : World) (e : Log.Entry) :
    (w.log e).warnings = w.warnings ++ (Event.logged e).warning?.toList := by
  rw [← (alike_log .byDeeds w e).warnings, World.warnings_record]

theorem calms_log {s : Severity} (h : s ≠ .warn) (target message : String) :
    Calms (Host.log ⟨s, target, message⟩ : Simulation Unit) := by
  intro w
  have hleft := quiet_log ⟨s, target, message⟩ w
  refine ⟨hleft.tree ▸ hleft, ?_⟩
  refine (warnings_log w _).trans ?_
  rw [Event.warning?, if_neg h]
  exact List.append_nil _

theorem calms_notify (c : Console) (n : Notice) : Calms (Run.notify c n : Simulation Unit) := by
  have hlook : Calms (Host.now : Simulation Timestamp) := fun w => .refl w
  exact hlook.bind fun _ => calms_forM (fun _ w => .record w rfl rfl) _

theorem calm_began (c : Console) (message : String) (n : Notice) (w : World) :
    w.Calm (began c message n w) :=
  (calms_log (by decide) _ _ w).trans (calms_notify c n _)

def Calming (x : Action α) : Prop := Keeps World.Calm (outcome x)

theorem calming_pure (a : α) : Calming (pure a : Action α) := fun w => .refl w

theorem calming_throw (e : Fault) : Calming (throw e : Action α) := fun w => .refl w

theorem calming_except (r : Except Fault α) : Calming (liftM r : Action α) := by
  intro w
  rw [outcome_except]
  exact .refl w

theorem Calms.lift {x : Simulation α} (h : Calms x) : Calming (liftM x : Action α) := h

theorem Calming.bind {x : Action α} {f : α → Action β} (hx : Calming x) (hf : ∀ a, Calming (f a)) :
    Calming (x >>= f) :=
  Keeps.bind_action (R := World.Calm) (fun _ _ _ => World.Calm.trans) hx hf

theorem Calming.logged {x : Action α} (h : Calming x) (note : Fault → String) :
    Calming (Run.logged note x) := by
  intro w
  unfold Run.logged
  cases hx : (outcome x w).1 with
  | ok a =>
    rw [outcome_tryCatch_ok hx]
    exact h w
  | error e =>
    rw [outcome_tryCatch_error hx, outcome_bind_lift]
    exact (h w).trans (calms_log (by decide) _ _ _)

theorem calming_makeDirectory (p : Path) : Calming (Workspace.makeDirectory p : Action Unit) := by
  intro w
  rw [outcome_makeDirectory]
  exact .withTree w _

theorem warnings_logEnd (tool : String) (o : Tool.Output) (w : World) :
    ((Tool.logEnd tool o : Simulation Unit) w).2.warnings = w.warnings ++ o.warnings tool := by
  -- What a tool wrote to its error stream is told to those who look for faults only.
  have hstderr : Calms (if !o.stderr.isEmpty then
      Host.log ⟨.debug, Tool.logTarget, Tool.stderrNote tool o.stderr⟩
      else pure () : Simulation Unit) := by
    split
    · exact calms_log (by decide) _ _
    · exact calms_pure _
  unfold Tool.logEnd Tool.Output.warnings
  cases o.success with
  | true =>
    rw [if_pos rfl, List.append_nil]
    exact (hstderr w).warnings
  | false =>
    exact (hstderr _).warnings.trans (warnings_log w _)

theorem warnings_entering (c : Tool.Command) (s : Tool.State) (w : World) :
    (entering c s w).warnings = w.warnings := by
  have hrecord (w : World) {e : Event} (he : e.warning? = none) :
      (w.record e).warnings = w.warnings := by
    rw [World.warnings_record, he]
    exact List.append_nil _
  unfold entering
  split
  · rw [hrecord _ rfl, hrecord _ rfl]
  · exact hrecord _ rfl

/-- A command that cannot be launched is no reason for a warning; a tool that ran is, unless it
ended with exit code zero. -/
theorem warnings_run (c : Tool.Command) (w : World) :
    ((c.run : Simulation _) w).2.warnings = w.warnings ++
      match ((c.run : Simulation _) w).1.1 with
      | .ok o => o.warnings c.tool
      | .error _ => [] := by
  have hstart : (starting c w).warnings = w.warnings :=
    (warnings_entering _ _ _).trans (calms_log (by decide : Severity.info ≠ .warn) Tool.logTarget
      s!"Running {c.tool}: {c.rendered}" w).warnings
  have hlaunch : ((starting c w).launch c.words).2.warnings = w.warnings :=
    (World.warnings_record _ _).trans ((List.append_nil _).trans hstart)
  rw [run_eq]
  -- Up to here nothing was warned of; what follows depends on how the program ended.
  generalize (starting c w).launch c.words = l at hlaunch ⊢
  obtain ⟨result, left⟩ := l
  have hentered (c : Tool.Command) (s : Tool.State) : (entering c s left).warnings = w.warnings :=
    (warnings_entering c s left).trans hlaunch
  cases result with
  | error e =>
    rw [finish_error]
    exact (hentered _ .failed).trans (List.append_nil _).symm
  | ok x =>
    rw [finish_ok]
    refine (warnings_logEnd c.tool _ _).trans ?_
    exact congrArg (· ++ _) (hentered _ .completed)

end Simulation
end DumpWorkbench
