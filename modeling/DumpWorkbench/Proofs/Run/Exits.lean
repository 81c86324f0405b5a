import DumpWorkbench.Proofs.Run.Execution
import DumpWorkbench.Proofs.World.Effects
import DumpWorkbench.Proofs.World.Warnings

namespace DumpWorkbench

open Simulation

/-- A run of a tool that came to its end, with the world in which it was started. -/
structure Tool.Ran where
  command : Tool.Command
  start : World
  output : Tool.Output
  ended : ((command.run : Simulation _) start).1.1 = .ok output

namespace Tool.Ran

def left (x : Ran) : World := ((x.command.run : Simulation _) x.start).2

def warning (x : Ran) : Log.Entry :=
  ⟨.warn, logTarget, exitWarning x.command.tool x.output.exitCode⟩

def Warned (x : Ran) : Prop := x.left.warnings = x.start.warnings ++ [x.warning]

theorem launches_left (x : Ran) : x.left.launches = x.start.launches ++ [x.command.words] :=
  (run_command x.command x.start).2.launches

theorem warnings_left (x : Ran) :
    x.left.warnings = x.start.warnings ++ if x.output.success then [] else [x.warning] := by
  refine (warnings_run x.command x.start).trans ?_
  rw [x.ended]
  rfl

theorem warned_iff (x : Ran) : x.Warned ↔ x.output.success = false := by
  rw [Warned, warnings_left, List.append_cancel_left_eq]
  cases x.output.success <;> simp

end Tool.Ran

/-- Runs of tools one after the other, from one world to another, with nothing launched and nothing
warned of in between. -/
inductive Traced : World → List Tool.Ran → World → Prop
  | calm {w w' : World} (h : w.Calm w') : Traced w [] w'
  | next {w w' : World} {x : Tool.Ran} {xs : List Tool.Ran} (h : w.Calm x.start)
      (rest : Traced x.left xs w') : Traced w (x :: xs) w'

namespace Traced

variable {w w' w'' : World} {x : Tool.Ran} {xs ys : List Tool.Ran}

theorem single (h : w.Calm x.start) (h' : x.left.Calm w') : Traced w [x] w' := .next h (.calm h')

theorem after (h : w.Calm w') (h' : Traced w' xs w'') : Traced w xs w'' := by
  cases h' with
  | calm h' => exact .calm (h.trans h')
  | next h' rest => exact .next (h.trans h') rest

theorem append (h : Traced w xs w') (h' : Traced w' ys w'') : Traced w (xs ++ ys) w'' := by
  induction h with
  | calm h => exact h'.after h
  | next h rest ih => exact .next h (ih h')

theorem launches (h : Traced w xs w') :
    w'.launches = w.launches ++ xs.map (·.command.words) := by
  induction h with
  | calm h => exact h.leaves.launches
  | @next w w' x xs h rest ih =>
    rw [ih, x.launches_left, h.leaves.launches, List.append_nil, List.append_assoc]
    rfl

theorem warnings (h : Traced w xs w') :
    w'.warnings = w.warnings ++ (xs.filter (!·.output.success)).map (·.warning) := by
  induction h with
  | calm h => exact h.warnings.trans (List.append_nil _).symm
  | @next w w' x xs h rest ih =>
    rw [ih, x.warnings_left, h.warnings, List.append_assoc, List.filter_cons]
    cases x.output.success <;> rfl

end Traced

/-- Whether a record tells how a tool ended. -/
def Record.Tells (record : Record) (o : Tool.Output) : Prop :=
  record = { Record.ofTool record.operation o none with
    artifact := record.artifact, sections := record.sections }

theorem Record.Tells.exitedNonzero {record : Record} {o : Tool.Output} (h : record.Tells o) :
    record.exitedNonzero = (!o.success && o.exitCode.isSome) := by
  have hcode : record.exitCode = o.exitCode := congrArg Record.exitCode h
  rw [Record.exitedNonzero, hcode, Tool.Output.success]
  cases o.exitCode with
  | none => rfl
  | some code => by_cases hzero : code = 0 <;> simp [hzero]

namespace Run

variable {r : Run} {base : Path} {ws : Workspace} {name : String} {op : Operation}
  {ops : List Operation} {record : Record} {records : List Record} {w w' : World}

theorem calming_ensure (base : Path) : Calming (Workspace.ensure base : Action Workspace) := by
  unfold Workspace.ensure
  refine (calming_makeDirectory _).bind fun _ => (calming_makeDirectory _).bind fun _ => ?_
  refine (calming_makeDirectory _).bind fun _ => (calms_log (by decide) _ _).lift.bind fun _ => ?_
  exact calming_pure _

theorem calming_createLayout (r : Run) : Calming (r.createLayout : Action Record) := by
  have hclock : Calms (Host.clock : Simulation Duration) := fun w => .refl w
  unfold createLayout
  refine hclock.lift.bind fun _ => (calming_except _).bind fun base => ?_
  refine (calms_log (by decide) _ _).lift.bind fun _ => ?_
  refine ((calming_ensure base).logged _).bind fun _ => ?_
  exact (calms_notify _ _).lift.bind fun _ => hclock.lift.bind fun _ => calming_pure _

theorem calms_logMap (name : String) (map : SectionMap) :
    Calms (logMap name map : Simulation Unit) :=
  (calms_log (by decide) _ _).bind fun _ => calms_forM (fun _ => calms_log (by decide) _ _) _

theorem calming_keep (r : Run) (ws : Workspace) (name : String) (o : Tool.Output)
    (map : SectionMap) : Calming (r.keep ws name o map) := by
  have hstore : Calming (map.store ws name : Action Path) := by
    unfold SectionMap.store
    refine (calms_log (by decide) _ _).lift.bind fun _ => ?_
    refine (calms_onTree _).lift.bind fun result => ?_
    cases result with
    | ok _ => exact calming_pure _
    | error e => exact calming_throw _
  unfold keep
  refine (calms_logMap _ _).lift.bind fun _ => hstore.bind fun _ => ?_
  exact (calms_notify _ _).lift.bind fun _ => calming_pure _

theorem keep_ok {o : Tool.Output} {map : SectionMap}
    (h : (outcome (r.keep ws name o map) w).1 = .ok record) :
    record.operation = .mapExtraction ∧ record.Tells o := by
  unfold keep at h
  rw [outcome_bind_lift] at h
  obtain ⟨path, -, h⟩ := outcome_bind_eq_ok h
  obtain rfl := Except.ok.inj h
  exact ⟨rfl, rfl⟩

theorem extractMap_ran (h : outcome (r.extractMap ws name) w = (.ok record, w')) :
    ∃ x : Tool.Ran, x.command = r.query ws name ∧ x.start = w ∧ x.left.Calm w' ∧
      record.operation = .mapExtraction ∧ record.Tells x.output := by
  have hextract : r.extractMap ws name =
      liftM ((r.query ws name).run : Simulation _) >>= fun ran => liftM ran.1 >>= fun o =>
        liftM ((SectionMap.decode o.stdout).mapError Fault.ofRefusal) >>= r.keep ws name o := rfl
  rw [hextract, outcome_bind_lift] at h
  obtain ⟨o, ho, hrest⟩ := outcome_bind_eq_ok (congrArg Prod.fst h)
  rw [outcome_bind_ok ho] at h
  rw [outcome_except] at ho h
  obtain ⟨map, -, hkept⟩ := outcome_bind_eq_ok (congrArg Prod.fst h)
  obtain ⟨hoperation, htells⟩ := keep_ok hkept
  have hcalm : Calming (liftM ((SectionMap.decode o.stdout).mapError Fault.ofRefusal) >>=
      r.keep ws name o) := (calming_except _).bind fun map => calming_keep r ws name o map
  refine ⟨⟨r.query ws name, w, o, ho⟩, rfl, rfl, ?_, hoperation, htells⟩
  have hleft := hcalm ((r.query ws name).run (m := Simulation) w).2
  rw [h] at hleft
  exact hleft

theorem runSifter_ran {o : Tool.Output}
    (h : outcome (runSifter base r.settings.sifter name r.settings.extension
      r.settings.threads.toNat) w = (.ok o, w')) :
    ∃ x : Tool.Ran, x.command = (r.siftPlan base name).command.withProgress true ∧ w.Calm x.start ∧
      x.left = w' ∧ x.output = o := by
  have hsifter : outcome (r.prepared base name >>= fun plan =>
      liftM ((plan.command.withProgress true).run : Simulation _) >>= fun ran => liftM ran.1) w =
        (.ok o, w') := h
  obtain ⟨plan, hplan, hran⟩ := outcome_bind_eq_ok (congrArg Prod.fst hsifter)
  obtain ⟨hmade, rfl⟩ := eq_siftPlan_of_prepared (Prod.ext hplan rfl)
  have hprepared := outcome_prepared_of_made r hmade
  rw [outcome_bind_ok hplan, hprepared, outcome_bind_lift, outcome_except] at hsifter
  obtain ⟨hended, hleft⟩ := Prod.mk.inj hsifter
  exact ⟨⟨_, withResults base name w, o, hended⟩, rfl, .withTree w _, hleft, rfl⟩

/-- The records of operations, each record of a tool beside the run that it tells of. -/
structure Accounted (r : Run) (base : Path) (name : String) (w : World) (records : List Record)
    (runs : List (Record × Tool.Ran)) (w' : World) : Prop where
  recorded : records.filter (·.operation ≠ .createLayout) = runs.map Prod.fst
  codeless : ∀ record ∈ records, record.operation = .createLayout → record.exitCode = none
  told : ∀ x ∈ runs, r.command? base name x.1.operation = some x.2.command.words ∧
    x.1.Tells x.2.output
  traced : Traced w (runs.map Prod.snd) w'

theorem Accounted.none (w : World) : Accounted r base name w [] [] w where
  recorded := rfl
  codeless _ hy := absurd hy List.not_mem_nil
  told _ hx := absurd hx List.not_mem_nil
  traced := .calm (.refl w)

theorem Accounted.layout (h : w.Calm w') (path : Path) (elapsed : Duration) :
    Accounted r base name w [.layout path elapsed] [] w' where
  recorded := rfl
  codeless y hy _ := by
    rw [List.mem_singleton.1 hy]
    rfl
  told _ hx := absurd hx List.not_mem_nil
  traced := .calm h

theorem Accounted.single {x : Tool.Ran} (htool : record.operation ≠ .createLayout)
    (hwords : r.command? base name record.operation = some x.command.words)
    (htells : record.Tells x.output) (h : w.Calm x.start) (h' : x.left.Calm w') :
    Accounted r base name w [record] [(record, x)] w' where
  recorded := by simp [htool]
  codeless y hy hlayout := by
    obtain rfl := List.mem_singleton.1 hy
    exact absurd hlayout htool
  told y hy := by
    obtain rfl := List.mem_singleton.1 hy
    exact ⟨hwords, htells⟩
  traced := .single h h'

theorem Accounted.append {w'' : World} {later : List Record} {runs runs' : List (Record × Tool.Ran)}
    (h : Accounted r base name w records runs w')
    (h' : Accounted r base name w' later runs' w'') :
    Accounted r base name w (records ++ later) (runs ++ runs') w'' where
  recorded := by rw [List.filter_append, List.map_append, h.recorded, h'.recorded]
  codeless y hy := (List.mem_append.1 hy).elim (h.codeless y) (h'.codeless y)
  told y hy := (List.mem_append.1 hy).elim (h.told y) (h'.told y)
  traced := List.map_append ▸ h.traced.append h'.traced

theorem mapExtraction_accounted
    (h : outcome (r.mapExtraction (.under base) name) w = (.ok record, w')) :
    ∃ runs, Accounted r base name w [record] runs w' := by
  unfold mapExtraction at h
  rw [outcome_began] at h
  have hstart := calm_began r.console s!"Extracting memory sections from {name}"
    (.start s!"Extracting memory sections from {name}") w
  generalize began r.console s!"Extracting memory sections from {name}"
    (.start s!"Extracting memory sections from {name}") w = started at hstart h
  obtain ⟨told, hlogged, -⟩ := outcome_bind_eq_ok (congrArg Prod.fst h)
  rw [outcome_bind_ok hlogged, outcome_bind_lift, outcome_pure] at h
  obtain ⟨hrecord, hend⟩ := Prod.mk.inj h
  obtain rfl := Except.ok.inj hrecord
  obtain ⟨x, hcommand, rfl, hleft, hoperation, htells⟩ :=
    extractMap_ran (outcome_logged_of_ok (Prod.ext hlogged rfl))
  refine ⟨[(told, x)], .single (by rw [hoperation]; decide) ?_ htells hstart ?_⟩
  · rw [hoperation, hcommand]
    rfl
  · rw [← hend]
    exact hleft.trans (calms_log (by decide) _ _ _)

theorem sift_accounted (hbase : r.base = .ok base)
    (h : outcome (r.sift name) w = (.ok record, w')) :
    ∃ runs, Accounted r base name w [record] runs w' := by
  unfold sift at h
  rw [outcome_began, hbase, outcome_bind_except_ok] at h
  have hstart := calm_began r.console
    s!"Sifting through {name} for pointers, lua_Page, and regex"
    (.start s!"Sifting through {name}") w
  generalize began r.console s!"Sifting through {name} for pointers, lua_Page, and regex"
    (.start s!"Sifting through {name}") w = started at hstart h
  obtain ⟨o, hlogged, -⟩ := outcome_bind_eq_ok (congrArg Prod.fst h)
  rw [outcome_bind_ok hlogged] at h
  -- What follows only reports, in whatever world the sifter has left.
  generalize hfinished : (outcome (logged _ _) started).2 = finished at h
  obtain ⟨x, hcommand, hprepared, rfl, rfl⟩ :=
    runSifter_ran (outcome_logged_of_ok (Prod.ext hlogged hfinished))
  rw [outcome_bind_forM, outcome_bind_lift] at h
  have hlines : Calms ((linesOf (Utf8.decodeLossy x.output.stdout).toList).forM fun line =>
      (log .debug ("luau-sifter: " ++ String.ofList line) : Simulation Unit)) :=
    calms_forM (fun _ => calms_log (by decide) _ _) _
  obtain ⟨hrecord, hend⟩ := Prod.mk.inj h
  obtain rfl := Except.ok.inj hrecord
  refine ⟨[(_, x)], .single (x := x) nofun ?_ rfl (hstart.trans hprepared) ?_⟩
  · rw [hcommand]
    rfl
  · rw [← hend]
    exact ((hlines _).trans (calms_log (by decide) _ _ _)).trans (calms_notify _ _ _)

theorem perform_accounted (hbase : r.base = .ok base)
    (h : outcome (r.perform (.under base) name op) w = (.ok record, w')) :
    ∃ runs, Accounted r base name w [record] runs w' := by
  cases op with
  | createLayout =>
    obtain ⟨hresult, -⟩ := outcome_createLayout r hbase w
    have hcalm := calming_createLayout r w
    rw [show outcome r.createLayout w = _ from h] at hresult hcalm
    obtain ⟨_, -, rfl⟩ := map_eq_ok.1 hresult.symm
    exact ⟨[], .layout hcalm _ _⟩
  | mapExtraction => exact mapExtraction_accounted h
  | sift => exact sift_accounted hbase h

theorem Carried.accounted (hbase : r.base = .ok base)
    (h : Carried r (.under base) name w ops records w') :
    ∃ runs, Accounted r base name w records runs w' := by
  -- The runs of one operation are followed by those of the operations after it.
  induction h with
  | none w => exact ⟨[], .none w⟩
  | next h rest ih =>
    obtain ⟨runs, hruns⟩ := perform_accounted hbase h
    obtain ⟨later, hlater⟩ := ih
    exact ⟨runs ++ later, hruns.append hlater⟩

theorem Accounted.flagged {runs : List (Record × Tool.Ran)}
    (h : Accounted r base name w records runs w') :
    records.filter (·.exitedNonzero) =
      (runs.filter fun x => !x.2.output.success && x.2.output.exitCode.isSome).map Prod.fst := by
  -- A layout has no exit code, so that leaving out its record changes nothing.
  have htools : records.filter (·.exitedNonzero) =
      (records.filter (·.operation ≠ .createLayout)).filter (·.exitedNonzero) := by
    rw [List.filter_filter]
    refine List.filter_congr fun record hmem => ?_
    by_cases hlayout : record.operation = .createLayout
    · simp [Record.exitedNonzero, h.codeless record hmem hlayout]
    · simp [hlayout]
  rw [htools, h.recorded, List.filter_map]
  exact congrArg (List.map Prod.fst) (List.filter_congr fun x hx => (h.told x hx).2.exitedNonzero)

/-- Tools without success are all flagged if and only if none of them ended without an exit code. -/
theorem flagged_iff (runs : List (Record × Tool.Ran)) :
    (runs.filter fun x => !x.2.output.success && x.2.output.exitCode.isSome).map Prod.fst =
        (runs.filter (!·.2.output.success)).map Prod.fst ↔
      ∀ x ∈ runs, x.2.output.exitCode ≠ none := by
  -- Both lists are the same if nothing is lost by asking for an exit code.
  have hcut : (runs.filter fun x => !x.2.output.success && x.2.output.exitCode.isSome) =
      (runs.filter (!·.2.output.success)).filter (·.2.output.exitCode.isSome) := by
    rw [List.filter_filter]
    exact List.filter_congr fun x _ => Bool.and_comm _ _
  rw [hcut]
  constructor
  · intro hall x hx hcode
    have hlength := congrArg List.length hall
    rw [List.length_map, List.length_map, List.length_filter_eq_length_iff] at hlength
    have hfailed : x ∈ runs.filter (!·.2.output.success) :=
      List.mem_filter.2 ⟨hx, by simp [Tool.Output.success, hcode]⟩
    simpa [hcode] using hlength x hfailed
  · intro hcodes
    rw [List.filter_eq_self.2 fun x hx =>
      Option.isSome_iff_ne_none.2 (hcodes x (List.mem_filter.1 hx).1)]

theorem carried_of_execute {report : Report} {requested : List Operation}
    (h : (outcome (r.execute name requested) w).1 = .ok report) :
    ∃ base, r.base = .ok base ∧ Carried r (.under base) name w (Operation.ordered requested)
      report.records (outcome (r.execute name requested) w).2 := by
  cases hname : checkName name with
  | error e =>
    rw [execute_refused hname] at h
    cases h
  | ok _ =>
    cases hbase : r.base with
    | error e =>
      rw [execute_baseless hname hbase] at h
      cases h
    | ok base =>
      refine ⟨base, rfl, ?_⟩
      obtain ⟨done, records, left, hcarried, hended⟩ :=
        outcome_mapM r (.under base) name (Operation.ordered requested) w
      rw [outcome_execute hname hbase] at h ⊢
      obtain ⟨rfl, hall⟩ | ⟨op, later, e, -, -, hstop⟩ := hended
      · rw [outcome_bind_ok (congrArg Prod.fst hall), hall] at h ⊢
        obtain rfl := Except.ok.inj h
        exact hcarried
      · rw [outcome_bind_error (congrArg Prod.fst hstop)] at h
        cases h

/-- The report of a run flags the tools that ended with an exit code other than zero, in their
order. A run launches what belongs to its records of tools and nothing else, and it warns of each
tool that did not succeed and of nothing else: what is warned of is what is flagged, unless a tool
ended without an exit code. -/
theorem nonzeroExits_of_execute (r : Run) (name : String) (requested : List Operation) (w : World)
    (report : Report) (h : (outcome (r.execute name requested) w).1 = .ok report) :
    let left := (outcome (r.execute name requested) w).2
    ∃ base, r.base = .ok base ∧ ∃ runs : List (Record × Tool.Ran),
      report.records.filter (·.operation ≠ .createLayout) = runs.map Prod.fst ∧
      (∀ x ∈ runs, r.command? base name x.1.operation = some x.2.command.words ∧
        x.1.Tells x.2.output ∧ (x.2.Warned ↔ x.2.output.success = false)) ∧
      Traced w (runs.map Prod.snd) left ∧
      left.launches = w.launches ++ runs.map (·.2.command.words) ∧
      left.warnings = w.warnings ++ (runs.filter (!·.2.output.success)).map (·.2.warning) ∧
      report.nonzeroExits =
        (runs.filter fun x => !x.2.output.success && x.2.output.exitCode.isSome).map Prod.fst ∧
      (report.nonzeroExits = (runs.filter (!·.2.output.success)).map Prod.fst ↔
        ∀ x ∈ runs, x.2.output.exitCode ≠ none) := by
  intro left
  obtain ⟨base, hbase, hcarried⟩ := carried_of_execute h
  obtain ⟨runs, hruns⟩ := hcarried.accounted hbase
  have hflagged : report.nonzeroExits = _ := hruns.flagged
  have hlaunches := hruns.traced.launches
  have hwarnings := hruns.traced.warnings
  rw [List.map_map] at hlaunches
  rw [List.filter_map, List.map_map] at hwarnings
  refine ⟨base, hbase, runs, hruns.recorded, fun x hx => ?_, hruns.traced, hlaunches, hwarnings,
    hflagged, ?_⟩
  · obtain ⟨hwords, htells⟩ := hruns.told x hx
    exact ⟨hwords, htells, x.2.warned_iff⟩
  · rw [hflagged]
    exact flagged_iff runs

/-- A sifter that ends with exit code one is warned of and flagged. -/
theorem nonzeroExits_of_execute_one :
    let r : Run := ⟨{ baseDirectory := some ⟨"/w"⟩ }, ⟨.plain, 0, true, false⟩⟩
    let failing : Launcher := fun _ _ _ tree => (.ok ⟨[], [], some 1⟩, tree)
    let w : World := { World.bare with launcher := failing }
    let ended := outcome (r.execute "a" [.sift]) w
    ∃ report, ended.1 = .ok report ∧ report.nonzeroExits.map (·.exitCode) = [some 1] ∧
      ∃ runs : List (Record × Tool.Ran),
        report.nonzeroExits = (runs.filter (!·.2.output.success)).map Prod.fst ∧
        ended.2.warnings = (runs.filter (!·.2.output.success)).map (·.2.warning) := by
  intro r failing w ended
  have hcodes : ended.1.toOption.map (·.nonzeroExits.map (·.exitCode)) = some [some 1] := by
    decide +kernel
  have hrecords : ended.1.toOption.map (·.records.all (·.exitCode.isSome)) = some true := by
    decide +kernel
  cases h : ended.1 with
  | error e =>
    rw [h] at hcodes
    cases hcodes
  | ok report =>
    rw [h] at hcodes hrecords
    obtain ⟨base, hbase, runs, hrecorded, htold, -, -, hwarnings, -, hall⟩ :=
      nonzeroExits_of_execute r "a" [.sift] w report h
    refine ⟨report, rfl, Option.some.inj hcodes, runs, hall.2 fun x hx hcode => ?_, hwarnings⟩
    -- Every record has an exit code, so every run has.
    have hmem : x.1 ∈ report.records.filter (·.operation ≠ .createLayout) :=
      hrecorded ▸ List.mem_map_of_mem hx
    have hsome := List.all_eq_true.1 (Option.some.inj hrecords) x.1 (List.mem_filter.1 hmem).1
    rw [show x.1.exitCode = x.2.output.exitCode from
      congrArg Record.exitCode (htold x hx).2.1, hcode] at hsome
    cases hsome

/-- A sifter that is killed is warned of, but it is not flagged. -/
theorem nonzeroExits_misses_killed :
    let r : Run := ⟨{ baseDirectory := some ⟨"/w"⟩ }, ⟨.plain, 0, true, false⟩⟩
    let killed : Launcher := fun _ _ _ tree => (.ok ⟨[], [], none⟩, tree)
    let ended := outcome (r.execute "a" [.sift]) { World.bare with launcher := killed }
    ended.1.toOption.map (·.records.map (·.operation)) = some [.sift] ∧
      ended.1.toOption.map (·.nonzeroExits) = some [] ∧
      ended.2.warnings = [⟨.warn, Tool.logTarget,
        "luau-sifter exited with status None; keeping its output"⟩] := by
  intro r killed ended
  refine ⟨?_, ?_, ?_⟩
  · decide +kernel
  · decide +kernel
  · decide +kernel

end Run
end DumpWorkbench
