import DumpWorkbench.Options
import DumpWorkbench.Proofs.DumpName
import DumpWorkbench.Proofs.World.Actions

namespace DumpWorkbench

namespace Settings

theorem extension_of_check {s : Settings} (h : s.check = .ok ()) :
    s.extension ≠ "" ∧ ∀ c ∈ s.extension.toList, c ≠ '.' ∧ c ≠ Path.separator := by
  unfold check at h
  cases hp : s.problem? with
  | some p =>
    rw [hp] at h
    cases h
  | none =>
    unfold problem? at hp
    split at hp
    · cases hp
    · rename_i hne
      split at hp
      · cases hp
      · rename_i hbare
        refine ⟨hne, fun c hc => ?_⟩
        have hall : isBare s.extension = true := by simpa using hbare
        have hc := List.all_eq_true.1 hall c hc
        simp only [Bool.and_eq_true, decide_eq_true_eq] at hc
        exact hc.1

end Settings

namespace Workspace

open DumpWorkbench.Path (Component separator stepsOf)

variable {base p : Path} {directory name q : String} {w : Workspace}

/-- The path leads to a directory of the workspace and on through names, of which there is one at
least. -/
def Below (base : Path) (directory : String) (p : Path) : Prop :=
  ∃ names : List String, names ≠ [] ∧ (∀ n ∈ names, n ≠ ".." ∧ separator ∉ n.toList) ∧
    p.steps = base.steps ++ .name directory :: names.map .name

theorem Below.isAbsolute (h : Below base directory p) (hbase : base.isAbsolute = true) :
    p.isAbsolute = true := by
  obtain ⟨names, -, -, hsteps⟩ := h
  rw [Path.isAbsolute_iff_steps] at hbase ⊢
  rw [hsteps, List.head?_append, hbase]
  rfl

theorem Below.normalize (h : Below base directory p) : Below base directory p.normalize := by
  unfold Below
  rw [Path.steps_normalize]
  exact h

theorem steps_directory (base : Path) (hrel : directory.toList.head? ≠ some separator)
    (hname : stepsOf directory.toList = [.name directory]) :
    (base.normalize.join directory).steps = base.steps ++ [.name directory] := by
  rw [Path.steps_join hrel, Path.steps_normalize, hname]

theorem steps_bins (base : Path) : (under base).bins.steps = base.steps ++ [.name "bins"] :=
  steps_directory base (by decide) rfl

theorem steps_maps (base : Path) : (under base).maps.steps = base.steps ++ [.name "mem"] :=
  steps_directory base (by decide) rfl

theorem steps_searches (base : Path) :
    (under base).searches.steps = base.steps ++ [.name "searches"] :=
  steps_directory base (by decide) rfl

theorem below_join (hp : p.steps = base.steps ++ [.name directory])
    (hq : DumpName.Plain q.toList) : Below base directory (p.join q) := by
  obtain ⟨names, hne, hnames⟩ := hq.steps
  refine ⟨names, hne, ?_, ?_⟩
  · intro n hn
    have hmem : Component.name n ∈ stepsOf q.toList := by
      rw [hnames]
      exact List.mem_map_of_mem hn
    obtain ⟨hwritten, hsep⟩ := Path.written_stepsOf q.toList _ hmem
    refine ⟨?_, hsep⟩
    rintro rfl
    cases hwritten
  · rw [Path.steps_join hq.relative, hp, hnames, List.append_assoc]
    rfl

theorem below_dumpPath (base : Path) (hname : DumpName.Plain name.toList) {ext : String}
    (hne : ext ≠ "") (hext : ∀ c ∈ ext.toList, c ≠ '.' ∧ c ≠ separator) :
    Below base "bins" ((under base).dumpPath name ext) :=
  (below_join (steps_bins base) (DumpName.plain_fileName hname hne hext)).normalize

theorem below_mapPath (base : Path) (hname : DumpName.Plain name.toList) :
    Below base "mem" ((under base).mapPath name) := by
  have hplain : DumpName.Plain (name ++ ".json").toList := by
    rw [String.toList_append]
    exact hname.append (by decide) (by decide)
  exact (below_join (steps_maps base) hplain).normalize

theorem below_announcedSearchPath (base : Path) (hname : DumpName.Plain name.toList) :
    Below base "searches" ((under base).announcedSearchPath name) :=
  below_join (steps_searches base) hname

theorem below_searchPath (base : Path) (hname : DumpName.Plain name.toList) :
    Below base "searches" ((under base).searchPath name) :=
  (below_announcedSearchPath base hname).normalize

theorem eq_searchPath_of_makeSearchPath {world world' : World}
    (h : Simulation.outcome (w.makeSearchPath name) world = (.ok p, world')) :
    p = w.searchPath name := by
  rw [Simulation.outcome_makeSearchPath] at h
  obtain ⟨-, -, hp⟩ := map_eq_ok.1 (Prod.mk.inj h).1
  exact hp.symm

end Workspace

theorem Options.isAbsolute_anchored {directory : Path} (h : directory.isAbsolute = true)
    (p : Path) : (anchored directory p).isAbsolute = true := by
  unfold anchored
  split
  · assumption
  · rename_i hp
    rw [Path.isAbsolute_join]
    · exact h
    · simpa [Path.isAbsolute] using hp

namespace Workspace

/-- No admitted name leads out of the workspace, whatever is written around it or added to it. The
paths are absolute if the base directory is, and the one of the command line always is. -/
theorem contained (base : Path) {name : String} {s : Settings}
    (hname : DumpName.check name = .ok ()) (hs : s.check = .ok ()) :
    (Below base "bins" ((under base).dumpPath name s.extension) ∧
      Below base "mem" ((under base).mapPath name) ∧
      (∀ world world' p,
        Simulation.outcome ((under base).makeSearchPath name) world = (.ok p, world') →
        Below base "searches" p) ∧
      ∀ sifter threads, Below base "searches"
        (SiftPlan.announced (under base) sifter name s.extension threads).output) ∧
    (base.isAbsolute = true →
      ((under base).dumpPath name s.extension).isAbsolute = true ∧
      ((under base).mapPath name).isAbsolute = true ∧
      (∀ world world' p,
        Simulation.outcome ((under base).makeSearchPath name) world = (.ok p, world') →
        p.isAbsolute = true) ∧
      ∀ sifter threads, (SiftPlan.announced (under base) sifter name s.extension
        threads).output.isAbsolute = true) ∧
    ∀ (o : Options) (directory b : Path), directory.isAbsolute = true →
      (o.overrides directory).baseDirectory = some b → b.isAbsolute = true := by
  have hplain := DumpName.plain_of_check hname
  obtain ⟨hne, hext⟩ := Settings.extension_of_check hs
  have hdump := below_dumpPath base hplain hne hext
  have hmap := below_mapPath base hplain
  have hannounced := below_announcedSearchPath base hplain
  have hmade : ∀ world world' p,
      Simulation.outcome ((under base).makeSearchPath name) world = (.ok p, world') →
      Below base "searches" p := by
    intro world world' p h
    rw [eq_searchPath_of_makeSearchPath h]
    exact below_searchPath base hplain
  -- What is below the base directory is absolute with it.
  refine ⟨⟨hdump, hmap, hmade, fun _ _ => hannounced⟩, fun hbase => ?_, ?_⟩
  · exact ⟨hdump.isAbsolute hbase, hmap.isAbsolute hbase,
      fun world world' p h => (hmade world world' p h).isAbsolute hbase,
      fun _ _ => hannounced.isAbsolute hbase⟩
  · intro o directory b hdirectory hb
    obtain ⟨dir, -, rfl⟩ := Option.map_eq_some_iff.1 hb
    exact Options.isAbsolute_anchored hdirectory dir

/-- A name with space around it, a doubled separator and a `.` at its end. -/
theorem contained_untrimmed :
    DumpName.check " a//b/. " = .ok () ∧ Settings.check {} = .ok () ∧
      ((under ⟨"/work/"⟩).mapPath " a//b/. ").isAbsolute = true := by
  have hname : DumpName.check " a//b/. " = .ok () := by decide
  have hs : Settings.check {} = .ok () := by decide
  exact ⟨hname, hs, ((contained ⟨"/work/"⟩ hname hs).2.1 rfl).2.1⟩

end Workspace
end DumpWorkbench
