import DumpWorkbench.Proofs.World.Comparison

namespace DumpWorkbench

open Simulation

/-- Launchers of programs that start equally, leave the same tree and write the same to their
standard output. How the programs end and what they write to their error stream is left open. -/
def Launcher.SameOutput (l l' : Launcher) : Prop :=
  ∀ environment directory words tree,
    (l environment directory words tree).1.map (·.stdout) =
        (l' environment directory words tree).1.map (·.stdout) ∧
      (l environment directory words tree).2 = (l' environment directory words tree).2

theorem Launcher.SameOutput.alike {w : World} {l : Launcher} (h : w.launcher.SameOutput l)
    (time : Timestamp) : w.Alike .byOutput { w with launcher := l, time := time } := by
  refine ⟨rfl, rfl, rfl, fun environment directory words tree => ?_,
    fun environment directory words tree => (h environment directory words tree).2, rfl⟩
  refine map_eq_map.2 ?_
  obtain ⟨e, he, he'⟩ | ⟨x, y, hx, hy, hstdout⟩ :=
    map_eq_map.1 (h environment directory words tree).1
  · exact .inl ⟨e, he, he'⟩
  · exact .inr ⟨x, y, hx, hy, congrArg (fun out => Exit.mk out [] none) hstdout⟩

namespace Run

variable {v : View} {s : Settings} {c c' : Console} {base : Path} {ws : Workspace} {name : String}

theorem matches_clock : Matches v (fun _ => ()) (Host.clock : Simulation Duration) Host.clock :=
  fun _ _ hw => ⟨rfl, hw⟩

theorem agrees_ensure (base : Path) :
    Agrees v id (Workspace.ensure base : Action Workspace) (Workspace.ensure base) := by
  unfold Workspace.ensure
  refine (agrees_makeDirectory _).bind fun _ _ _ => (agrees_makeDirectory _).bind fun _ _ _ => ?_
  refine (agrees_makeDirectory _).bind fun _ _ _ => (matches_log _).lift.bind fun _ _ _ => ?_
  exact agrees_pure rfl

theorem agrees_createLayout :
    Agrees v v.record (createLayout ⟨s, c⟩ : Action Record) (createLayout ⟨s, c'⟩) := by
  unfold createLayout
  refine matches_clock.lift.bind fun start start' _ => ?_
  have hbase : (Run.base ⟨s, c⟩).map id = (Run.base ⟨s, c'⟩).map id := rfl
  refine (agrees_except hbase).bind_eq fun base => ?_
  refine (matches_log _).lift.bind fun _ _ _ => ?_
  refine ((agrees_ensure base).logged _).bind_eq fun w => ?_
  refine (matches_notify _ _ _ _).lift.bind fun _ _ _ => ?_
  exact matches_clock.lift.bind fun stop stop' _ => agrees_pure (View.record_layout _ _ _)

theorem matches_logMap (name : String) (map : SectionMap) :
    Matches v (fun _ => ()) (logMap name map : Simulation Unit) (logMap name map) :=
  (matches_log _).bind fun _ _ _ => matches_forM (fun _ => matches_log _) _

theorem agrees_store (map : SectionMap) (ws : Workspace) (name : String) :
    Agrees v id (map.store ws name : Action Path) (map.store ws name) := by
  unfold SectionMap.store
  refine (matches_log _).lift.bind fun _ _ _ => (matches_onTree _).lift.bind_eq fun result => ?_
  cases result with
  | ok _ => exact agrees_pure rfl
  | error e => exact agrees_throw _

theorem agrees_extractMap (ws : Workspace) (name : String) :
    Agrees v v.record (extractMap ⟨s, c⟩ ws name : Action Record) (extractMap ⟨s, c'⟩ ws name) := by
  unfold extractMap
  refine (matches_run _).lift.bind fun ran ran' hran => (agrees_except hran).bind fun o o' ho => ?_
  have hstdout : o.stdout = o'.stdout := View.stdout_of_exit ho
  rw [hstdout]
  refine (agrees_except rfl).bind_eq fun map => ?_
  refine (matches_logMap _ _).lift.bind fun _ _ _ => (agrees_store _ _ _).bind_eq fun path => ?_
  refine (matches_notify _ _ _ _).lift.bind fun _ _ _ => agrees_pure ?_
  exact View.record_withSections (View.record_ofTool ho _ _) _

theorem agrees_mapExtraction (ws : Workspace) (name : String) :
    Agrees v v.record (mapExtraction ⟨s, c⟩ ws name : Action Record)
      (mapExtraction ⟨s, c'⟩ ws name) := by
  unfold mapExtraction
  refine (matches_log _).lift.bind fun _ _ _ => (matches_notify _ _ _ _).lift.bind fun _ _ _ => ?_
  refine ((agrees_extractMap ws name).logged _).bind fun record record' hrecord => ?_
  exact (matches_log _).lift.bind fun _ _ _ => agrees_pure hrecord

theorem agrees_runSifter (base sifter : Path) (name ext : String) (threads : Nat) :
    Agrees v v.output (runSifter base sifter name ext threads : Action Tool.Output)
      (runSifter base sifter name ext threads) := by
  have hprepare : Agrees v id
      (SiftPlan.prepare (.under base) sifter name ext threads : Action SiftPlan)
      (SiftPlan.prepare (.under base) sifter name ext threads) := by
    have hmake : Agrees v id ((Workspace.under base).makeSearchPath name : Action Path)
        ((Workspace.under base).makeSearchPath name) :=
      (agrees_makeDirectory _).bind_eq fun _ => agrees_pure rfl
    exact hmake.bind_eq fun _ => agrees_pure rfl
  unfold runSifter
  refine hprepare.bind_eq fun plan => ?_
  exact (matches_run _).lift.bind fun ran ran' hran => agrees_except hran

theorem agrees_sift (name : String) :
    Agrees v v.record (sift ⟨s, c⟩ name : Action Record) (sift ⟨s, c'⟩ name) := by
  unfold sift
  refine (matches_log _).lift.bind fun _ _ _ => (matches_notify _ _ _ _).lift.bind fun _ _ _ => ?_
  have hbase : (Run.base ⟨s, c⟩).map id = (Run.base ⟨s, c'⟩).map id := rfl
  refine (agrees_except hbase).bind_eq fun base => ?_
  refine ((agrees_runSifter _ _ _ _ _).logged _).bind fun o o' ho => ?_
  have hstdout : o.stdout = o'.stdout := View.stdout_of_exit ho
  rw [hstdout]
  refine (agrees_forM (fun _ => (matches_log _).lift) _).bind fun _ _ _ => ?_
  refine (matches_log _).lift.bind fun _ _ _ => (matches_notify _ _ _ _).lift.bind fun _ _ _ => ?_
  exact agrees_pure (View.record_ofTool ho _ _)

theorem agrees_perform (ws : Workspace) (name : String) (op : Operation) :
    Agrees v v.record (perform ⟨s, c⟩ ws name op : Action Record) (perform ⟨s, c'⟩ ws name op) := by
  cases op with
  | createLayout => exact agrees_createLayout
  | mapExtraction => exact agrees_mapExtraction ws name
  | sift => exact agrees_sift name

theorem agrees_execute (s : Settings) (c c' : Console) (name : String)
    (requested : List Operation) :
    Agrees v v.report (execute ⟨s, c⟩ name requested : Action Report)
      (execute ⟨s, c'⟩ name requested) := by
  have hnow : Matches v (fun _ => ()) (Host.now : Simulation Timestamp) Host.now :=
    fun _ _ hw => ⟨rfl, hw⟩
  have hworkspace : (Run.workspace ⟨s, c⟩).map id = (Run.workspace ⟨s, c'⟩).map id := rfl
  unfold execute
  refine (agrees_except rfl).bind_eq fun _ => (agrees_except hworkspace).bind_eq fun ws => ?_
  refine hnow.lift.bind fun started started' _ => ?_
  refine (agrees_mapM (agrees_perform ws name) _).bind fun records records' hrecords => ?_
  exact agrees_pure (by rw [View.report, View.report, hrecords])

/-- The exit codes of tools and what they write to their error stream decide nothing: where tools
start equally, leave the same tree and write the same to their standard output, runs launch the same
commands, leave the same tree, and end with the same fault or with reports that differ at most in
exit codes and times. -/
theorem execute_of_sameOutput (r : Run) (name : String) (requested : List Operation) (w : World)
    (l : Launcher) (time : Timestamp) (h : w.launcher.SameOutput l) :
    let ended := outcome (r.execute name requested) w
    let other := outcome (r.execute name requested) { w with launcher := l, time := time }
    ended.1.map View.byOutput.report = other.1.map View.byOutput.report ∧
      ended.2.tree = other.2.tree ∧ ended.2.launches = other.2.launches := by
  obtain ⟨s, c⟩ := r
  obtain ⟨hresult, hleft⟩ := agrees_execute s c c name requested w _ (h.alike time)
  exact ⟨hresult, hleft.tree, hleft.launches⟩

/-- A sifter that is killed while it complains, beside one that ended well a minute before: both
runs succeed. -/
theorem execute_of_sameOutput_killed :
    let r : Run := ⟨{ baseDirectory := some ⟨"/w"⟩ }, ⟨.plain, 0, true, false⟩⟩
    let killed : Launcher := fun _ _ _ tree => (.ok ⟨[], [0x21], none⟩, tree)
    let ended := outcome (r.execute "a" [.sift]) World.bare
    let other := outcome (r.execute "a" [.sift])
      { World.bare with launcher := killed, time := ⟨60, 0⟩ }
    World.bare.launcher.SameOutput killed ∧
    ended.1.toOption.map (·.records.map (·.exitCode)) = some [some 0] ∧
    other.1.toOption.map (·.records.map (·.exitCode)) = some [none] ∧
    ended.1.map View.byOutput.report = other.1.map View.byOutput.report ∧
    ended.2.tree = other.2.tree ∧ ended.2.launches = other.2.launches := by
  intro r killed
  have hsame : World.bare.launcher.SameOutput killed := fun _ _ _ _ => ⟨rfl, rfl⟩
  have hruns := execute_of_sameOutput r "a" [.sift] World.bare killed ⟨60, 0⟩ hsame
  dsimp only at hruns ⊢
  refine ⟨hsame, ?_, ?_, hruns⟩
  · decide +kernel
  · decide +kernel

/-- The presentation of a run changes nothing but what is printed: runs of the same settings on two
consoles, with log lines going to different places, launch the same commands, leave the same tree,
take their tools through the same states, log the same, and end with the same fault or with reports
that differ at most in times. -/
theorem execute_of_presentation (s : Settings) (c c' : Console) (name : String)
    (requested : List Operation) (w : World) (sink : Option Log.Sink) (terminal : Bool)
    (time : Timestamp) :
    let ended := outcome ((⟨s, c⟩ : Run).execute name requested) w
    let other := outcome ((⟨s, c'⟩ : Run).execute name requested)
      { w with sink := sink, terminal := terminal, time := time }
    ended.1.map View.byDeeds.report = other.1.map View.byDeeds.report ∧
      ended.2.tree = other.2.tree ∧ ended.2.launches = other.2.launches ∧
      ended.2.events.filter View.byDeeds.sees = other.2.events.filter View.byDeeds.sees := by
  have hstart : w.Alike .byDeeds { w with sink := sink, terminal := terminal, time := time } :=
    ⟨rfl, rfl, rfl, fun _ _ _ _ => rfl, fun _ _ _ _ => rfl, rfl⟩
  obtain ⟨hresult, hleft⟩ := agrees_execute s c c' name requested w _ hstart
  exact ⟨hresult, hleft.tree, hleft.launches, hleft.events⟩

end Run
end DumpWorkbench
