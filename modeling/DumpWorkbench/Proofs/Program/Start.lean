import DumpWorkbench.Program
import DumpWorkbench.Proofs.Options.Required
import DumpWorkbench.Proofs.World.Effects

namespace DumpWorkbench

open Simulation

namespace Settings

theorem looks_readText (p : Path) : Looks (readText p : Simulation (Except IoFault String)) := by
  have hread : Looks (Files.readFile p : Simulation (Except IoFault Bytes)) := fun _ => rfl
  refine hread.bind fun read => ?_
  cases read with
  | error e => exact looks_pure _
  | ok content =>
    dsimp only
    cases Utf8.decode? content <;> exact looks_pure _

theorem looks_isPresent (p : Path) : Looks (Files.isPresent p : Simulation Bool) := fun _ => rfl

theorem idle_loadFrom (p : Path) : Idle (loadFrom p : Action Settings) := by
  refine (looks_isPresent p).idle.bind fun isPresent => ?_
  dsimp only
  split
  · exact fun _ => rfl
  · refine (looks_readText p).idle.bind fun read => ?_
    cases read with
    | error e => exact idle_throw _
    | ok text =>
      dsimp only
      cases ofText text with
      | error e => exact idle_throw _
      | ok s => exact idle_pure s

theorem looks_firstPresent (ps : List Path) :
    Looks (firstPresent ps : Simulation (Option Path)) := by
  induction ps with
  | nil => exact looks_pure _
  | cons p ps ih =>
    refine (looks_isPresent p).bind fun isPresent => ?_
    split
    · exact looks_pure _
    · exact ih

theorem idle_load (named : Option Path) : Idle (load named : Action Settings) := by
  cases named with
  | some p => exact idle_loadFrom p
  | none =>
    refine (looks_firstPresent _).idle.bind fun found => ?_
    cases found with
    | some p => exact idle_loadFrom p
    | none => exact idle_pure _

end Settings

namespace Options

variable {o : Options} {r : Run} {w : World} {p : Path}

theorem looks_workingDirectory : Looks (Files.workingDirectory : Simulation Path) := fun _ => rfl

theorem idle_settings (o : Options) : Idle (o.settings : Action Settings) :=
  (Settings.idle_load o.config).bind fun _ => looks_workingDirectory.idle.bind fun _ =>
    (idle_except _).bind fun _ => idle_pure _

theorem idle_run (o : Options) : Idle (o.run : Action Run) := by
  have hterminal : Looks (Host.terminal : Simulation Bool) := fun _ => rfl
  exact o.idle_settings.bind fun _ => hterminal.idle.bind fun _ => idle_pure _

theorem run_eq_ok (h : (outcome o.run w).1 = .ok r) :
    ∃ file : Settings,
      r = ⟨file.override (o.overrides w.directory.path), o.console w.terminal⟩ := by
  have hload := Settings.idle_load o.config w
  have hsettings := o.idle_settings w
  unfold run at h
  obtain ⟨s, hs, hr⟩ := outcome_bind_eq_ok h
  rw [hsettings] at hr
  unfold settings at hs
  obtain ⟨file, -, hs⟩ := outcome_bind_eq_ok hs
  rw [hload, outcome_bind_lift] at hs
  obtain ⟨_, -, hs⟩ := outcome_bind_eq_ok hs
  obtain rfl := Except.ok.inj hs
  exact ⟨file, (Except.ok.inj hr).symm⟩

theorem base_of_run (hbase : o.baseDir = some p) (h : (outcome o.run w).1 = .ok r) :
    r.base = .ok (anchored w.directory.path p) := by
  obtain ⟨file, rfl⟩ := run_eq_ok h
  unfold Run.base Settings.override overrides
  rw [hbase]
  rfl

end Options

namespace Run

variable {r : Run} {base : Path} {name : String}

theorem checkName_of_check (h : DumpName.check name = .ok ()) : checkName name = .ok () := by
  unfold checkName
  rw [h]
  rfl

theorem plan_of_base (hname : checkName name = .ok ()) (hbase : r.base = .ok base)
    (requested : List Operation) : ∃ entries, r.plan name requested = .ok entries := by
  unfold plan workspace
  rw [hname, hbase]
  exact ⟨_, rfl⟩

end Run

namespace Program

variable {o : Options} {r : Run} {arguments : List String} {w : World}

theorem admitted_of_read (hread : Options.read arguments = .ok o)
    (hgenerate : o.generateConfig = false) (hrun : (outcome o.run w).1 = .ok r) :
    ∃ name base, o.binName = some name ∧ Run.checkName name = .ok () ∧ r.base = .ok base := by
  obtain ⟨⟨name, hname, hcheck⟩, p, hp⟩ := Options.required_of_read hread hgenerate
  exact ⟨name, _, hname, Run.checkName_of_check hcheck, Options.base_of_run hp hrun⟩

theorem quiet_fail (c : Console) (e : Fault) : Quiet (fail c e : Simulation Nat) :=
  (quiet_notify c _).bind fun _ => quiet_pure _

theorem preview_eq_success {name : String} {ops : List Operation}
    (h : ∃ entries, r.plan name ops = .ok entries) (w : World) :
    ((preview r name ops : Simulation Nat) w).1 = exitSuccess := by
  obtain ⟨entries, hplan⟩ := h
  unfold preview
  rw [hplan, bind_apply]
  dsimp only
  rw [bind_apply]
  split <;> rfl

def started (r : Run) (w : World) : Except Log.Unopened Unit × World :=
  (startLog r.settings r.console : ExceptT Log.Unopened Simulation Unit) w

theorem follow_of_generate (hgenerate : o.generateConfig = true) :
    (follow o : Simulation Nat) w = (writeSample o : Simulation Nat) w := by
  unfold follow
  rw [if_pos hgenerate]

theorem follow_of_fault {e : Fault} (hgenerate : o.generateConfig = false)
    (h : (outcome o.run w).1 = .error e) :
    (follow o : Simulation Nat) w =
      (fail ⟨.human, 0, false, w.terminal⟩ e : Simulation Nat) w := by
  have hrun : outcome o.run w = (.error e, w) := Prod.ext h (o.idle_run w)
  unfold follow
  rw [hgenerate, if_neg Bool.false_ne_true, bind_apply, run_apply, hrun]
  rfl

theorem follow_of_unopened {e : Log.Unopened} (hgenerate : o.generateConfig = false)
    (h : (outcome o.run w).1 = .ok r) (hstarted : (started r w).1 = .error e) :
    (follow o : Simulation Nat) w = (exitLogging, (started r w).2.record
      (.printed .stderr (s!"Failed to initialize logging: {e.message}" ++ "\n"))) := by
  have hrun : outcome o.run w = (.ok r, w) := Prod.ext h (o.idle_run w)
  have hlog : (startLog r.settings r.console : ExceptT Log.Unopened Simulation Unit).run w =
      (.error e, (started r w).2) := Prod.ext hstarted rfl
  unfold follow
  rw [hgenerate, if_neg Bool.false_ne_true, bind_apply, run_apply, hrun]
  dsimp only
  rw [bind_apply, hlog]
  rfl

theorem follow_of_opened (hgenerate : o.generateConfig = false)
    (h : (outcome o.run w).1 = .ok r) (hstarted : (started r w).1 = .ok ()) :
    (follow o : Simulation Nat) w =
      (((logged o r : Simulation Nat) (started r w).2).1,
        ((logged o r : Simulation Nat) (started r w).2).2.closeLog) := by
  have hrun : outcome o.run w = (.ok r, w) := Prod.ext h (o.idle_run w)
  have hlog : (startLog r.settings r.console : ExceptT Log.Unopened Simulation Unit).run w =
      (.ok (), (started r w).2) := Prod.ext hstarted rfl
  unfold follow
  rw [hgenerate, if_neg Bool.false_ne_true, bind_apply, run_apply, hrun]
  dsimp only
  rw [bind_apply, hlog]
  rfl

end Program
end DumpWorkbench
