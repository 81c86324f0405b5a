import DumpWorkbench.Proofs.Run.Execution
import DumpWorkbench.Proofs.Tree.Growth
import DumpWorkbench.Proofs.Workspace.Containment

namespace DumpWorkbench

open Simulation

namespace Simulation

variable {α β : Type} {f : α → Action β} {a : α} {b : β} {e : Fault} {w w' : World}

theorem outcome_mapM_cons_ok (h : outcome (f a) w = (.ok b, w')) (as : List α) :
    outcome ((a :: as).mapM f) w =
      ((outcome (as.mapM f) w').1.map (b :: ·), (outcome (as.mapM f) w').2) := by
  have hok : (outcome (f a) w).1 = .ok b := congrArg Prod.fst h
  have hrest : (as.mapM f >>= fun bs => pure (b :: bs) : Action (List β)) =
      (b :: ·) <$> as.mapM f := bind_pure_comp _ _
  rw [List.mapM_cons, outcome_bind_ok hok, hrest, outcome_map, h]

theorem outcome_mapM_cons_error (h : (outcome (f a) w).1 = .error e) (as : List α) :
    outcome ((a :: as).mapM f) w = (.error e, (outcome (f a) w).2) := by
  rw [List.mapM_cons, outcome_bind_error h]

end Simulation

namespace Workspace.Below

variable {base p : Path} {directory : String}

theorem mem_components (h : Below base directory p) : .name directory ∈ p.components := by
  obtain ⟨names, -, -, hsteps⟩ := h
  have hmem : Path.Component.name directory ∈ p.steps := by
    rw [hsteps]
    simp
  exact (List.mem_filter.1 hmem).1

end Workspace.Below

namespace Run

variable {r : Run} {base : Path} {ws : Workspace} {name : String} {requested : List Operation}
  {w w' : World} {t left ready : Tree} {record : Record} {finished : Except IoFault Exit}

/-- An extraction ends with a tree: the tool reports a map, which is written to its path in the
tree that the tool leaves. -/
def Extracts (r : Run) (ws : Workspace) (name : String) (w : World) (t : Tree) : Prop :=
  ∃ x left map, launched (r.query ws name) w = (.ok x, left) ∧
    SectionMap.decode x.stdout = .ok map ∧
    left.writeFile w.directory (ws.mapPath name) (Utf8.encode map.encode) = .ok t

theorem extracts_congr (h : w.Leaves [] t w') :
    r.Extracts ws name w' left ↔ r.Extracts ws name { w with tree := t } left := by
  unfold Extracts
  simp only [launched, h.launcher, h.environment, h.directory, h.tree]

theorem outcome_mapExtraction_of_extracts (h : r.Extracts ws name w t) :
    ∃ record, (outcome (r.mapExtraction ws name) w).1 = .ok record ∧
      record.operation = .mapExtraction ∧ record.artifact = some (ws.mapPath name) ∧
      w.Leaves [(r.query ws name).words] t (outcome (r.mapExtraction ws name) w).2 := by
  obtain ⟨x, left, map, hlaunched, hdecode, hwrite⟩ := h
  obtain ⟨⟨spot, old, executable⟩, hopen, rfl⟩ := map_eq_ok.1 hwrite
  obtain ⟨hresult, hleft⟩ := outcome_mapExtraction r ws name w
  rw [hlaunched, settled, hdecode] at hresult hleft
  dsimp only at hresult hleft
  rw [hopen] at hresult hleft
  exact ⟨_, hresult, rfl, rfl, hleft⟩

/-- An extraction that succeeds has written its map. -/
theorem extracts_of_mapExtraction (h : (outcome (r.mapExtraction ws name) w).1 = .ok record) :
    ∃ t, r.Extracts ws name w t := by
  have hresult := (outcome_mapExtraction r ws name w).1
  rw [h] at hresult
  cases hlaunched : launched (r.query ws name) w with
  | mk finished left =>
    rw [hlaunched] at hresult
    cases finished with
    | error e => cases hresult
    | ok x =>
      unfold settled at hresult
      dsimp only at hresult
      split at hresult
      · cases hresult
      · rename_i map hdecode
        split at hresult
        · cases hresult
        · rename_i spot old executable hopen
          refine ⟨left.put spot (.file (Utf8.encode map.encode) executable), x, left, map,
            hlaunched, hdecode, ?_⟩
          rw [Tree.writeFile, hopen]
          rfl

theorem outcome_sift_unmade (hbase : r.base = .ok base) {cause : IoFault}
    (h : madeResults base name w = (.error cause, left)) :
    (outcome (r.sift name) w).1 =
        .error (.filesystem ((Workspace.under base).searchPath name) cause) ∧
      w.Leaves [] left (outcome (r.sift name) w).2 := by
  have hmade : (madeResults base name w).1 = .error cause := congrArg Prod.fst h
  obtain ⟨hresult, hleft⟩ := outcome_sift r hbase name w
  rw [sifted_of_error r hmade] at hresult hleft
  rw [h] at hleft
  exact ⟨hresult, hleft⟩

theorem outcome_sift_made (hbase : r.base = .ok base)
    (h : madeResults base name w = (.ok (), ready))
    (hlaunched : launched (r.siftPlan base name).command { w with tree := ready } =
      (finished, left)) :
    (outcome (r.sift name) w).1 = (received (r.siftPlan base name).command finished).map (fun o =>
        Record.ofTool .sift o (some ((Workspace.under base).announcedSearchPath name))) ∧
      w.Leaves [(r.siftPlan base name).command.words] left (outcome (r.sift name) w).2 := by
  have hmade : (madeResults base name w).1 = .ok () := congrArg Prod.fst h
  have hready : withResults base name w = { w with tree := ready } := by
    rw [withResults, h]
  obtain ⟨hresult, hleft⟩ := outcome_sift r hbase name w
  rw [sifted_of_made r hmade, hready, hlaunched] at hresult hleft
  exact ⟨hresult, hleft⟩

def extractAndSift (r : Run) (base : Path) (name : String) : Action (List Record) :=
  [Operation.mapExtraction, .sift].mapM (r.perform (.under base) name)

theorem outcome_extractAndSift_of_not (h : ∀ t, ¬ r.Extracts (.under base) name w t) :
    ∃ e left, (outcome (r.extractAndSift base name) w).1 = .error e ∧
      w.Leaves [(r.query (.under base) name).words] left
        (outcome (r.extractAndSift base name) w).2 := by
  have hleft := (outcome_mapExtraction r (.under base) name w).2
  cases hresult : (outcome (r.mapExtraction (.under base) name) w).1 with
  | ok record =>
    obtain ⟨t, ht⟩ := extracts_of_mapExtraction hresult
    exact absurd ht (h t)
  | error e =>
    have herror : (outcome (r.perform (.under base) name .mapExtraction) w).1 = .error e := hresult
    rw [extractAndSift, outcome_mapM_cons_error herror]
    exact ⟨e, _, rfl, hleft⟩

theorem outcome_extractAndSift_of_extracts (h : r.Extracts (.under base) name w t) :
    ∃ extraction w', extraction.operation = .mapExtraction ∧
      extraction.artifact = some ((Workspace.under base).mapPath name : RawPath) ∧
      w.Leaves [(r.query (.under base) name).words] t w' ∧
      outcome (r.extractAndSift base name) w =
        ((outcome (r.sift name) w').1.map (fun sift => [extraction, sift]),
          (outcome (r.sift name) w').2) := by
  obtain ⟨extraction, hok, hoperation, hartifact, hleft⟩ := outcome_mapExtraction_of_extracts h
  have hfirst : outcome (r.perform (.under base) name .mapExtraction) w =
      (.ok extraction, (outcome (r.mapExtraction (.under base) name) w).2) := Prod.ext hok rfl
  have hended := outcome_mapM_cons_ok hfirst [.sift]
  generalize (outcome (r.mapExtraction (.under base) name) w).2 = w' at hleft hended
  refine ⟨extraction, w', hoperation, hartifact, hleft, ?_⟩
  have hlast : ([Operation.sift].mapM (r.perform (.under base) name) : Action (List Record)) =
      (fun sift => [sift]) <$> r.sift name := by
    rw [List.mapM_cons, List.mapM_nil]
    exact bind_pure_comp _ _
  rw [hlast, outcome_map] at hended
  rw [extractAndSift, hended]
  cases (outcome (r.sift name) w').1 <;> rfl

/-- The tree that the layout leaves to the stages that follow, if it is asked for. -/
def Starts (base : Path) (requested : List Operation) (w : World) (t : Tree) : Prop :=
  if .createLayout ∈ requested then laid base w = (.ok (), t) else t = w.tree

theorem outcome_ordered (hbase : r.base = .ok base) (hmap : .mapExtraction ∈ requested)
    (hsift : .sift ∈ requested) (name : String) (w : World) :
    let ended := outcome ((Operation.ordered requested).mapM (r.perform (.under base) name)) w
    ((∀ t, ¬ Starts base requested w t) ∧ (∃ e, ended.1 = .error e) ∧
        ended.2.launches = w.launches) ∨
    ∃ t w' above, Starts base requested w t ∧ w.Leaves [] t w' ∧
      (∀ record ∈ above, record.operation = .createLayout) ∧
      ended = ((outcome (r.extractAndSift base name) w').1.map (above ++ ·),
        (outcome (r.extractAndSift base name) w').2) := by
  rw [Operation.ordered_stages hmap hsift]
  dsimp only
  by_cases hlayout : .createLayout ∈ requested
  · simp only [Starts, if_pos hlayout, List.singleton_append]
    obtain ⟨hresult, hleft⟩ := outcome_createLayout r hbase w
    cases hlaid : (laid base w).1 with
    | error e =>
      rw [hlaid] at hresult
      have herror : (outcome (r.perform (.under base) name .createLayout) w).1 = .error e := hresult
      rw [outcome_mapM_cons_error herror]
      refine .inl ⟨?_, ⟨e, rfl⟩, hleft.launches.trans (List.append_nil _)⟩
      intro t ht
      rw [ht] at hlaid
      cases hlaid
    | ok _ =>
      rw [hlaid] at hresult
      have hfirst : outcome (r.perform (.under base) name .createLayout) w =
          (.ok (.layout (Workspace.under base).base ⟨0⟩), (outcome r.createLayout w).2) :=
        Prod.ext hresult rfl
      rw [outcome_mapM_cons_ok hfirst]
      refine .inr
        ⟨_, _, [.layout (Workspace.under base).base ⟨0⟩], Prod.ext hlaid rfl, hleft, ?_, rfl⟩
      intro record hrecord
      rw [List.mem_singleton.1 hrecord]
      rfl
  · rw [if_neg hlayout, List.nil_append]
    refine .inr ⟨w.tree, w, [], ?_, .refl w, fun _ h => absurd h List.not_mem_nil, ?_⟩
    · rw [Starts, if_neg hlayout]
    · rw [extractAndSift]
      generalize outcome ([Operation.mapExtraction, .sift].mapM (r.perform (.under base) name)) w =
        ended
      obtain ⟨result, left⟩ := ended
      cases result <;> rfl

/-- The tree in which a run comes to its sift: the layout is there if it is asked for, and the map
is written. -/
def ComesToSift (r : Run) (base : Path) (name : String) (requested : List Operation) (w : World)
    (t : Tree) : Prop :=
  ∃ start, Starts base requested w start ∧
    r.Extracts (.under base) name { w with tree := start } t

theorem outcome_execute_map (hname : checkName name = .ok ()) (hbase : r.base = .ok base)
    (requested : List Operation) (w : World) :
    let carried := outcome ((Operation.ordered requested).mapM (r.perform (.under base) name)) w
    outcome (r.execute name requested) w =
      (carried.1.map fun records => ⟨name, (Workspace.under base).base, w.time, records⟩,
        carried.2) := by
  rw [outcome_execute hname hbase, bind_pure_comp, outcome_map]

/-- A run that does not come to its sift fails, and the extraction tool is all that it launches. -/
theorem execute_unsifted (hname : checkName name = .ok ()) (hbase : r.base = .ok base)
    (hmap : .mapExtraction ∈ requested) (hsift : .sift ∈ requested)
    (h : ∀ t, ¬ r.ComesToSift base name requested w t) :
    let ended := outcome (r.execute name requested) w
    (∃ e, ended.1 = .error e) ∧
      ∃ commands, commands <+: [(r.query (.under base) name).words] ∧
        ended.2.launches = w.launches ++ commands := by
  rw [outcome_execute_map hname hbase]
  dsimp only
  obtain ⟨-, ⟨e, herror⟩, hlaunches⟩ | ⟨start, w', above, hstart, hleft, -, hended⟩ :=
    outcome_ordered hbase hmap hsift name w
  · rw [herror, hlaunches]
    exact ⟨⟨e, rfl⟩, [], List.nil_prefix, (List.append_nil _).symm⟩
  · have hnot (t : Tree) : ¬ r.Extracts (.under base) name w' t := by
      rw [extracts_congr hleft]
      exact fun ht => h t ⟨start, hstart, ht⟩
    obtain ⟨e, left, herror, hafter⟩ := outcome_extractAndSift_of_not hnot
    rw [hended, herror]
    exact ⟨⟨e, rfl⟩, _, List.prefix_rfl, (hleft.trans hafter).launches⟩

/-- A run that comes to its sift ends as the sift ends. -/
theorem execute_sifted (hname : checkName name = .ok ()) (hbase : r.base = .ok base)
    (hmap : .mapExtraction ∈ requested) (hsift : .sift ∈ requested)
    (h : r.ComesToSift base name requested w t) :
    ∃ above extraction w', (∀ record ∈ above, record.operation = .createLayout) ∧
      extraction.operation = .mapExtraction ∧
      extraction.artifact = some ((Workspace.under base).mapPath name : RawPath) ∧
      w.Leaves [(r.query (.under base) name).words] t w' ∧
      outcome (r.execute name requested) w =
        ((outcome (r.sift name) w').1.map fun sift =>
            ⟨name, (Workspace.under base).base, w.time, above ++ [extraction, sift]⟩,
          (outcome (r.sift name) w').2) := by
  obtain ⟨start, hstart, hextracts⟩ := h
  rw [outcome_execute_map hname hbase]
  obtain ⟨hnot, -⟩ | ⟨start', w₁, above, hstart', hleft, habove, hended⟩ :=
    outcome_ordered hbase hmap hsift name w
  · exact absurd hstart (hnot start)
  · obtain rfl : start = start' := by
      unfold Starts at hstart hstart'
      split at hstart
      · rename_i hlayout
        rw [if_pos hlayout, hstart] at hstart'
        exact (Prod.mk.inj hstart').2
      · rename_i hlayout
        rw [if_neg hlayout] at hstart'
        rw [hstart, hstart']
    rw [← extracts_congr hleft] at hextracts
    obtain ⟨extraction, w', hoperation, hartifact, hafter, hrest⟩ :=
      outcome_extractAndSift_of_extracts hextracts
    refine ⟨above, extraction, w', habove, hoperation, hartifact, hleft.trans hafter, ?_⟩
    rw [hended, hrest]
    cases (outcome (r.sift name) w').1 <;> rfl

theorem execute_unmade {cause : IoFault} (hname : checkName name = .ok ())
    (hbase : r.base = .ok base) (hmap : .mapExtraction ∈ requested) (hsift : .sift ∈ requested)
    (ht : r.ComesToSift base name requested w t)
    (h : t.makeDirectories w.directory ((Workspace.under base).searchPath name) =
      (.error cause, left)) :
    let ended := outcome (r.execute name requested) w
    ended.1 = .error (.filesystem ((Workspace.under base).searchPath name) cause) ∧
      ended.2.tree = left ∧
      ended.2.launches = w.launches ++ [(r.query (.under base) name).words] := by
  obtain ⟨above, extraction, w', -, -, -, hleft, hended⟩ := execute_sifted hname hbase hmap hsift ht
  have hmade : madeResults base name w' = (.error cause, left) := by
    rw [madeResults, hleft.tree, hleft.directory, h]
  obtain ⟨hresult, hsifted⟩ := outcome_sift_unmade hbase hmade
  have hall := hleft.trans hsifted
  rw [hended, hresult]
  exact ⟨rfl, hall.tree, hall.launches⟩

/-- The sifter is launched in the tree that has the directory of results. -/
theorem execute_made (hname : checkName name = .ok ()) (hbase : r.base = .ok base)
    (hmap : .mapExtraction ∈ requested) (hsift : .sift ∈ requested)
    (ht : r.ComesToSift base name requested w t)
    (h : t.makeDirectories w.directory ((Workspace.under base).searchPath name) =
      (.ok (), ready)) :
    let ended := outcome (r.execute name requested) w
    let sift := (r.siftPlan base name).command.words
    ended.2.tree = (w.launcher w.environment w.directory sift ready).2 ∧
      ended.2.launches = w.launches ++ [(r.query (.under base) name).words, sift] := by
  obtain ⟨above, extraction, w', -, -, -, hleft, hended⟩ := execute_sifted hname hbase hmap hsift ht
  have hmade : madeResults base name w' = (.ok (), ready) := by
    rw [madeResults, hleft.tree, hleft.directory, h]
  have hlaunched : launched (r.siftPlan base name).command { w' with tree := ready } =
      w.launcher w.environment w.directory (r.siftPlan base name).command.words ready := by
    simp only [launched, hleft.launcher, hleft.environment, hleft.directory]
  obtain ⟨-, hsifted⟩ := outcome_sift_made hbase hmade hlaunched
  have hall := hleft.trans hsifted
  rw [hended]
  exact ⟨hall.tree, hall.launches⟩

theorem check_of_checkName (h : checkName name = .ok ()) : DumpName.check name = .ok () := by
  unfold checkName at h
  cases hcheck : DumpName.check name with
  | ok _ => rfl
  | error e =>
    rw [hcheck] at h
    cases h

theorem isDirectory_searchPath {directory : Location} (hname : checkName name = .ok ())
    (h : t.makeDirectories directory ((Workspace.under base).searchPath name) = (.ok (), ready)) :
    ready.isDirectory directory ((Workspace.under base).searchPath name) = true := by
  have hplain := DumpName.plain_of_check (check_of_checkName hname)
  have hbelow := Workspace.below_searchPath base hplain
  exact Tree.isDirectory_of_makeDirectories hbelow.mem_components (by simp) h

theorem plan_refused {e : Fault} (h : checkName name = .error e) (requested : List Operation) :
    r.plan name requested = .error e := by
  unfold plan
  rw [h]
  rfl

theorem plan_baseless {e : Fault} (hname : checkName name = .ok ()) (h : r.base = .error e)
    (requested : List Operation) : r.plan name requested = .error e := by
  unfold plan
  rw [hname, workspace, h]
  rfl

theorem plan_paths (hname : checkName name = .ok ()) (hbase : r.base = .ok base)
    (requested : List Operation) :
    ∃ entries, r.plan name requested = .ok entries ∧
      entries.lookup "dump" =
        some ((Workspace.under base).dumpPath name r.settings.extension).text ∧
      entries.lookup "memory map" = some ((Workspace.under base).mapPath name).text := by
  unfold plan
  rw [hname, workspace, hbase]
  exact ⟨_, rfl, rfl, rfl⟩

theorem operation_of_sift (hbase : r.base = .ok base)
    (h : (outcome (r.sift name) w).1 = .ok record) : record.operation = .sift := by
  have hperform : outcome (r.perform (.under base) name .sift) w =
      (.ok record, (outcome (r.sift name) w).2) := Prod.ext h rfl
  exact (perform_ok hbase hperform).1

theorem artifact_of_execute {report : Report} (hname : checkName name = .ok ())
    (hbase : r.base = .ok base) (hmap : .mapExtraction ∈ requested) (hsift : .sift ∈ requested)
    (h : (outcome (r.execute name requested) w).1 = .ok report) :
    (report.records.filter (·.operation = .mapExtraction)).map (·.artifact) =
      [some ((Workspace.under base).mapPath name : RawPath)] := by
  by_cases hcomes : ∃ t, r.ComesToSift base name requested w t
  · -- The layout in front and the sift behind have other operations in their records.
    obtain ⟨t, ht⟩ := hcomes
    obtain ⟨above, extraction, w', habove, hoperation, hartifact, -, hended⟩ :=
      execute_sifted hname hbase hmap hsift ht
    rw [hended] at h
    obtain ⟨sift, hsifted, rfl⟩ := map_eq_ok.1 h
    have hlast := operation_of_sift hbase hsifted
    have hnone : above.filter (·.operation = .mapExtraction) = [] := by
      apply List.filter_eq_nil_iff.2
      intro record hrecord
      rw [habove record hrecord]
      decide
    simp [hnone, hoperation, hlast, hartifact]
  · obtain ⟨⟨e, herror⟩, -⟩ := execute_unsifted hname hbase hmap hsift (not_exists.1 hcomes)
    rw [herror] at h
    cases h

/-- All stages of a run agree on their paths, and with the plan. The sifter is launched once the map
is written and only where the directory of results is there. -/
theorem stages_agree (r : Run) (name : String) (requested : List Operation)
    (hmap : .mapExtraction ∈ requested) (hsift : .sift ∈ requested) (w : World) :
    let ended := outcome (r.execute name requested) w
    match checkName name, r.base with
    | .error e, _ => ended = (.error e, w) ∧ r.plan name requested = .error e
    | .ok _, .error e => ended = (.error e, w) ∧ r.plan name requested = .error e
    | .ok _, .ok base =>
      let dump := (Workspace.under base).dumpPath name r.settings.extension
      let map := (Workspace.under base).mapPath name
      let results := (Workspace.under base).searchPath name
      let query := [r.settings.radare.text, "-qc", "iSj", dump.text]
      let sift := [r.settings.sifter.text, "-n", toString r.settings.threads.toNat, "-plr",
        "-o", results.text, "--r2-sections", map.text, "--dmp", dump.text]
      (∃ entries, r.plan name requested = .ok entries ∧
        entries.lookup "dump" = some dump.text ∧ entries.lookup "memory map" = some map.text) ∧
      (∀ report, ended.1 = .ok report →
        (report.records.filter (·.operation = .mapExtraction)).map (·.artifact) =
          [some (map : RawPath)]) ∧
      ((∀ t, ¬ r.ComesToSift base name requested w t) →
        (∃ e, ended.1 = .error e) ∧
          ∃ commands, commands <+: [query] ∧ ended.2.launches = w.launches ++ commands) ∧
      ∀ t, r.ComesToSift base name requested w t →
        match t.makeDirectories w.directory results with
        | (.error e, left) =>
          ended.1 = .error (.filesystem results e) ∧ ended.2.tree = left ∧
            ended.2.launches = w.launches ++ [query]
        | (.ok _, ready) =>
          ready.isDirectory w.directory results = true ∧
            ended.2.tree = (w.launcher w.environment w.directory sift ready).2 ∧
            ended.2.launches = w.launches ++ [query, sift] := by
  dsimp only
  cases hname : checkName name with
  | error e => exact ⟨execute_refused hname requested w, plan_refused hname requested⟩
  | ok _ =>
    cases hbase : r.base with
    | error e =>
      exact ⟨execute_baseless hname hbase requested w, plan_baseless hname hbase requested⟩
    | ok base =>
      dsimp only
      refine ⟨plan_paths hname hbase requested,
        fun report h => artifact_of_execute hname hbase hmap hsift h,
        execute_unsifted hname hbase hmap hsift, fun t ht => ?_⟩
      split
      · rename_i cause left hmade
        exact execute_unmade hname hbase hmap hsift ht hmade
      · rename_i ready hmade
        exact ⟨isDirectory_searchPath hname hmade,
          execute_made hname hbase hmap hsift ht hmade⟩

/-- The paths under a base directory that is not normal are the same in both commands. -/
theorem stages_agree_relative :
    let r : Run := ⟨{ baseDirectory := some ⟨"./w/"⟩ }, ⟨.human, 0, false, false⟩⟩
    let t : Tree := ⟨[(["w"], .directory), (["w", "mem"], .directory)]⟩
    let w : World := { World.bare with
      tree := t, launcher := fun _ _ _ tree => (.ok ⟨[0x5B, 0x5D], [], some 0⟩, tree) }
    (outcome (r.execute "a" [.sift, .mapExtraction]) w).2.launches =
      [["r2", "-qc", "iSj", "w/bins/a.DMP"],
        ["../luau-sifter/target/debug/luau-sifter", "-n", "3030", "-plr", "-o", "w/searches/a",
          "--r2-sections", "w/mem/a.json", "--dmp", "w/bins/a.DMP"]] := by
  intro r t w
  have hname : checkName "a" = .ok () := by decide +kernel
  have hbase : r.base = .ok ⟨"./w/"⟩ := rfl
  have hdump : (Workspace.under ⟨"./w/"⟩).dumpPath "a" r.settings.extension = ⟨"w/bins/a.DMP"⟩ := by
    decide +kernel
  have hmap : (Workspace.under ⟨"./w/"⟩).mapPath "a" = ⟨"w/mem/a.json"⟩ := by decide +kernel
  have hresults : (Workspace.under ⟨"./w/"⟩).searchPath "a" = ⟨"w/searches/a"⟩ := by decide +kernel
  obtain ⟨left, hwrite, hmade⟩ : ∃ left,
      t.writeFile [] ⟨"w/mem/a.json"⟩ (Utf8.encode (SectionMap.encode ⟨[]⟩)) = .ok left ∧
        (left.makeDirectories [] ⟨"w/searches/a"⟩).1 = .ok () := ⟨_, rfl, rfl⟩
  have hcomes : r.ComesToSift ⟨"./w/"⟩ "a" [.sift, .mapExtraction] w left := by
    refine ⟨t, rfl, ⟨[0x5B, 0x5D], [], some 0⟩, t, ⟨[]⟩, rfl, rfl, ?_⟩
    rw [hmap]
    exact hwrite
  have hdirectory : w.directory = [] := rfl
  have hthreads : toString r.settings.threads.toNat = "3030" := by decide +kernel
  have hall := stages_agree r "a" [.sift, .mapExtraction] (by decide) (by decide) w
  rw [hname, hbase] at hall
  dsimp only at hall
  obtain ⟨-, -, -, hsift⟩ := hall
  have hlast := hsift left hcomes
  rw [hdirectory, hdump, hmap, hresults, hthreads] at hlast
  generalize left.makeDirectories [] ⟨"w/searches/a"⟩ = made at hmade hlast
  obtain ⟨result, ready⟩ := made
  obtain rfl : result = .ok () := hmade
  exact hlast.2.2

end Run
end DumpWorkbench
