import DumpWorkbench.Proofs.Run.Execution
import DumpWorkbench.Proofs.Workspace.Containment
import DumpWorkbench.Proofs.Workspace.Layout

namespace DumpWorkbench

open DumpWorkbench.Path (Component Written spell stepsOf separator)
open Simulation

namespace Workspace

variable {name : String}

/-- The path of a map: the steps of the base directory, `mem`, and those of the name. -/
theorem exists_mapPath_spell (base : Path) (h : DumpName.Plain name.toList) :
    ∃ (above : List String) (file : String),
      Written (base.names ++ .name "mem" :: above.map .name ++ [.name file]) ∧
      (under base).mapPath name = spell base.front
        (base.names ++ .name "mem" :: above.map .name ++ [.name file]) ∧
      (above = [] ↔ separator ∉ name.toList) := by
  obtain ⟨above, file, hsteps, habove⟩ := DumpName.stepsOf_json h
  have hrel : (name ++ ".json").toList.head? ≠ some separator := by
    rw [String.toList_append]
    exact (h.append (by decide) (by decide)).relative
  have hmem : "mem".toList.head? ≠ some separator := by decide
  have hnames : ((under base).maps.join (name ++ ".json")).names =
      base.names ++ .name "mem" :: above.map .name ++ [.name file] := by
    have hmaps : stepsOf "mem".toList = [.name "mem"] := rfl
    rw [Path.names_join hrel, hsteps, under, Path.names_join hmem, Path.names_normalize, hmaps]
    simp
  have hfront : ((under base).maps.join (name ++ ".json")).front = base.front := by
    rw [Path.front, Path.isAbsolute_join hrel, under, Path.isAbsolute_join hmem,
      Path.isAbsolute_normalize, Path.front]
  have hne : ((under base).maps.join (name ++ ".json")).steps ≠ [] := by
    rw [Path.steps_eq_front, hnames]
    simp
  refine ⟨above, file, hnames ▸ Path.written_names _, ?_, habove⟩
  rw [← hnames, ← hfront, ← Path.normalize_eq_spell hne]
  rfl

end Workspace

namespace Run

variable {r : Run} {base : Path} {name : String} {w : World}

def mapsLocation (base : Path) (directory : Location) : Location :=
  (Tree.origin directory base.front).along (base.names ++ [.name "mem"])

theorem laid_hollow (hhollow : w.tree.Hollow)
    (hdirectory : w.tree.get? w.directory = some .directory)
    (husable : ∀ p ∈ (Workspace.under base).directories, p.Usable) :
    ∃ t', laid base w = (.ok (), t') ∧
      w.tree.Adds (["bins", "mem", "searches"].flatMap fun q =>
        (Tree.origin w.directory base.front).way (base.names ++ [.name q])) t' ∧
      t'.get? (Tree.origin w.directory base.front) = some .directory := by
  have hstart := Workspace.origin_directory hdirectory base.front
  obtain ⟨t', hmade, hgains⟩ := Workspace.makeEach_free (Workspace.fit_directories husable)
    hhollow.rooted hstart fun _ _ => hhollow.free _
  exact ⟨t', hmade, hgains.adds hhollow, hgains.keeps hstart⟩

/-- Nothing is below the directory of maps, and no step of the base directory leads there. -/
def Clear (base : Path) (directory : Location) (t : Tree) : Prop :=
  ∀ l, mapsLocation base directory <+: l → l ≠ mapsLocation base directory →
    t.get? l = none ∧ l ∉ (Tree.origin directory base.front).way base.names

theorem along_name (l : Location) (ns : List Component) (s : String) :
    l.along (ns ++ [.name s]) = l.along ns ++ [s] :=
  Location.along_concat l ns (.name s)

/-- Below the directory of maps nothing is made. -/
theorem Clear.get?_eq_none {t t' : Tree} {directory l : Location} (h : Clear base directory t)
    {qs : List String}
    (hadds : t.Adds (qs.flatMap fun q =>
      (Tree.origin directory base.front).way (base.names ++ [.name q])) t')
    (hbelow : mapsLocation base directory <+: l) (hne : l ≠ mapsLocation base directory) :
    t'.get? l = none := by
  obtain ⟨hnone, hway⟩ := h l hbelow hne
  have hnot : l ∉ qs.flatMap fun q =>
      (Tree.origin directory base.front).way (base.names ++ [.name q]) := by
    intro hmem
    obtain ⟨q, -, hq⟩ := List.mem_flatMap.1 hmem
    obtain hq | hq := Location.mem_way_concat.1 hq
    · exact hway hq
    · -- The directories of the workspace are beside each other.
      refine hne (hbelow.eq_of_length ?_).symm
      rw [hq, mapsLocation, along_name, along_name, List.length_append, List.length_append]
      rfl
  rw [hadds.get, if_neg hnot]
  exact hnone

/-- In a new workspace the file of a map can be written if the name has no separator. -/
theorem openFile_mapPath {t t' : Tree} {directory : Location} (hclear : Clear base directory t)
    (hadds : t.Adds (["bins", "mem", "searches"].flatMap fun q =>
      (Tree.origin directory base.front).way (base.names ++ [.name q])) t')
    (hname : DumpName.Plain name.toList)
    (husable : ((Workspace.under base).mapPath name).Usable)
    (hstart : t'.get? (Tree.origin directory base.front) = some .directory) :
    ∃ spot, t'.openFile directory ((Workspace.under base).mapPath name) =
      if separator ∈ name.toList then .error .noEntry else .ok (spot, [], false) := by
  obtain ⟨above, file, hwritten, hspell, habove⟩ := Workspace.exists_mapPath_spell base hname
  have hmaps : ∀ x ∈ (Tree.origin directory base.front).way (base.names ++ [.name "mem"]),
      t'.get? x = some .directory := by
    intro x hx
    rw [hadds.get, if_pos (List.mem_flatMap.2 ⟨"mem", by decide, hx⟩)]
  rw [hspell] at husable ⊢
  rw [hadds.hollow.openFile_spell hwritten husable hstart]
  cases above with
  | nil =>
    have hnone : t'.get? ((Tree.origin directory base.front).along
        (base.names ++ [.name "mem"] ++ [.name file])) = none := by
      rw [along_name]
      exact hclear.get?_eq_none hadds (List.prefix_append _ [file]) (by simp [mapsLocation])
    refine ⟨(Tree.origin directory base.front).along
      (base.names ++ [.name "mem"] ++ [.name file]), ?_⟩
    rw [if_neg (habove.1 rfl)]
    exact (if_pos hmaps).trans (if_pos hnone)
  | cons n above =>
    -- The first directory of the name is missing.
    have hnone : t'.get? ((Tree.origin directory base.front).along
        (base.names ++ [.name "mem"] ++ [.name n])) = none := by
      rw [along_name]
      exact hclear.get?_eq_none hadds (List.prefix_append _ [n]) (by simp [mapsLocation])
    have hway : (Tree.origin directory base.front).along
        (base.names ++ [.name "mem"] ++ [.name n]) ∈ (Tree.origin directory base.front).way
          (base.names ++ .name "mem" :: (n :: above).map .name) := by
      have hsplit : base.names ++ .name "mem" :: (n :: above).map .name =
          base.names ++ [.name "mem"] ++ [.name n] ++ above.map .name := by simp
      rw [hsplit, Location.mem_way_append]
      exact .inl (Location.mem_way_concat.2 (.inr rfl))
    have hmissing : ¬ ∀ x ∈ (Tree.origin directory base.front).way
        (base.names ++ .name "mem" :: (n :: above).map .name), t'.get? x = some .directory := by
      intro hall
      exact Option.some_ne_none _ ((hall _ hway).symm.trans hnone)
    have hsep : separator ∈ name.toList := by
      by_contra hsep
      exact List.cons_ne_nil n above (habove.2 hsep)
    refine ⟨[], ?_⟩
    rw [if_neg hmissing, if_pos hsep]

section Settled

variable {ws : Workspace} {x : Exit} {map : SectionMap} {directory : Location} {t : Tree}

theorem settled_of_open (hmap : SectionMap.decode x.stdout = .ok map) {spot : Location}
    {old : Bytes} {executable : Bool}
    (hopen : t.openFile directory (ws.mapPath name) = .ok (spot, old, executable)) :
    ∃ record, r.settled ws name directory (.ok x, t) =
      (.ok record, t.put spot (.file (Utf8.encode map.encode) executable)) := by
  unfold settled
  dsimp only
  rw [hmap]
  dsimp only
  rw [hopen]
  exact ⟨_, rfl⟩

theorem settled_of_closed (hmap : SectionMap.decode x.stdout = .ok map) {e : IoFault}
    (hopen : t.openFile directory (ws.mapPath name) = .error e) :
    r.settled ws name directory (.ok x, t) = (.error (.filesystem (ws.mapPath name) e), t) := by
  unfold settled
  dsimp only
  rw [hmap]
  dsimp only
  rw [hopen]

end Settled

/-- After the layout is made, the extraction is what is left of a run. -/
theorem outcome_execute_extraction (hname : DumpName.check name = .ok ())
    (hbase : r.base = .ok base) {layout : Record}
    (hlayout : (outcome r.createLayout w).1 = .ok layout) :
    outcome (r.execute name [.createLayout, .mapExtraction]) w = outcome (do
      let record ← r.mapExtraction (.under base) name
      return ⟨name, (Workspace.under base).base, w.time, [layout, record]⟩)
        (outcome r.createLayout w).2 := by
  have hcheck : checkName name = .ok () := by rw [checkName, hname]; rfl
  have hordered : Operation.ordered [.createLayout, .mapExtraction] =
      [.createLayout, .mapExtraction] := by
    rw [Operation.ordered_eq_filter]
    rfl
  rw [outcome_execute hcheck hbase, hordered, List.mapM_cons, List.mapM_cons, List.mapM_nil]
  simp only [bind_assoc, pure_bind, perform]
  rw [outcome_bind_ok hlayout]

/-- What a run in a new workspace comes to: the map is written if the name has no separator. For
any other name the directory of the file is missing, although the name is admitted. -/
theorem first_extraction {x : Exit} {map : SectionMap} (hbase : r.base = .ok base)
    (hname : DumpName.check name = .ok ()) (hhollow : w.tree.Hollow)
    (hdirectory : w.tree.get? w.directory = some .directory)
    (hclear : Clear base w.directory w.tree)
    (husable : ∀ p ∈ (Workspace.under base).mapPath name :: (Workspace.under base).directories,
      p.Usable)
    (htool : launched (r.query (.under base) name) { w with tree := (laid base w).2 } =
      (.ok x, (laid base w).2))
    (hmap : SectionMap.decode x.stdout = .ok map) :
    let p := (Workspace.under base).mapPath name
    let ended := outcome (r.execute name [.createLayout, .mapExtraction]) w
    if separator ∈ name.toList then
      ended.1 = .error (.filesystem p .noEntry) ∧ ended.2.tree.isPresent w.directory p = false
    else
      (∃ report, ended.1 = .ok report) ∧
        ended.2.tree.readFile w.directory p = .ok (Utf8.encode map.encode) := by
  intro p ended
  obtain ⟨t', hlaid, hadds, hstart⟩ := laid_hollow hhollow hdirectory
    fun q hq => husable q (List.mem_cons_of_mem _ hq)
  obtain ⟨spot, hopen⟩ := openFile_mapPath hclear hadds (DumpName.plain_of_check hname)
    (husable _ List.mem_cons_self) hstart
  obtain ⟨hlayout, hleft⟩ := outcome_createLayout r hbase w
  rw [hlaid] at hlayout hleft htool
  -- The extraction, in the tree that the layout leaves.
  obtain ⟨hresult, hafter⟩ := outcome_mapExtraction r (.under base) name
    (outcome r.createLayout w).2
  have hlaunched : launched (r.query (.under base) name) (outcome r.createLayout w).2 =
      (.ok x, t') := by
    rw [← htool, launched, launched, hleft.launcher, hleft.environment, hleft.directory, hleft.tree]
  rw [hlaunched, hleft.directory] at hresult hafter
  have hended : ended = _ := outcome_execute_extraction hname hbase hlayout
  rw [hended]
  split
  · rename_i hsep
    rw [if_pos hsep] at hopen
    rw [settled_of_closed hmap hopen] at hresult hafter
    rw [outcome_bind_error hresult, hafter.tree]
    exact ⟨rfl, Tree.isPresent_of_openFile hopen⟩
  · rename_i hsep
    rw [if_neg hsep] at hopen
    obtain ⟨record, hsettled⟩ := settled_of_open (r := r) hmap hopen
    rw [hsettled] at hresult hafter
    rw [outcome_bind_ok hresult, outcome_pure, hafter.tree]
    exact ⟨⟨_, rfl⟩, (Tree.readFile_put hopen _).1⟩

/-- A name of two components is admitted and its map is not written. -/
theorem first_extraction_nested :
    let r : Run := ⟨{ baseDirectory := some ⟨"work"⟩ }, ⟨.human, 0, false, false⟩⟩
    let w : World := { World.bare with
      launcher := fun _ _ _ tree => (.ok ⟨[0x5B, 0x5D], [], some 0⟩, tree) }
    let ended := outcome (r.execute "a/b" [.createLayout, .mapExtraction]) w
    DumpName.check "a/b" = .ok () ∧ SectionMap.decode [0x5B, 0x5D] = .ok ⟨[]⟩ ∧
      ended.1 = .error (.filesystem ((Workspace.under ⟨"work"⟩).mapPath "a/b") .noEntry) ∧
      ended.2.tree.isPresent [] ((Workspace.under ⟨"work"⟩).mapPath "a/b") = false := by
  intro r w ended
  have hname : DumpName.check "a/b" = .ok () := by decide
  have hmap : SectionMap.decode [0x5B, 0x5D] = .ok ⟨[]⟩ := rfl
  have hmissing : ∀ l : Location, l ≠ [] → Tree.empty.get? l = none := fun l hl => if_neg hl
  have hhollow : w.tree.Hollow := by
    constructor
    · intro l node h
      by_cases hl : l = []
      · subst hl
        exact (Option.some.inj h).symm
      · cases (hmissing l hl).symm.trans h
    · intro l node h
      by_cases hl : l = []
      · subst hl
        rfl
      · cases (hmissing l hl).symm.trans h
  have hclear : Clear ⟨"work"⟩ w.directory w.tree := by
    have hmaps : mapsLocation ⟨"work"⟩ w.directory = ["work", "mem"] := by decide
    have hway : (Tree.origin w.directory (Path.mk "work").front).way (Path.mk "work").names =
        [["work"]] := by decide
    intro l hbelow hne
    rw [hmaps] at hbelow
    obtain ⟨ms, rfl⟩ := hbelow
    exact ⟨hmissing _ (by simp), by rw [hway]; simp⟩
  have husable : ∀ p ∈ (Workspace.under ⟨"work"⟩).mapPath "a/b" ::
      (Workspace.under ⟨"work"⟩).directories, p.Usable := by
    have hpaths : (Workspace.under ⟨"work"⟩).mapPath "a/b" ::
        (Workspace.under ⟨"work"⟩).directories =
          [⟨"work/mem/a/b.json"⟩, ⟨"work/bins"⟩, ⟨"work/mem"⟩, ⟨"work/searches"⟩] := by
      decide +kernel
    have hall : ∀ p ∈ [Path.mk "work/mem/a/b.json", ⟨"work/bins"⟩, ⟨"work/mem"⟩,
        ⟨"work/searches"⟩], p.text.toList.any Tree.isZero = false ∧
          (Utf8.encodeChars p.text.toList).length ≤ Tree.maxPath ∧
          ∀ s ∈ Path.segments p.text.toList, (Utf8.encodeChars s).length ≤ Tree.maxName := by
      decide +kernel
    rw [hpaths]
    intro p hp
    obtain ⟨hnonzero, hlength, hsegment⟩ := hall p hp
    exact ⟨hnonzero, hlength, hsegment⟩
  have hlaunched (t : Tree) : launched (r.query (.under ⟨"work"⟩) "a/b") { w with tree := t } =
      (.ok ⟨[0x5B, 0x5D], [], some 0⟩, t) := rfl
  have hbase : r.base = .ok ⟨"work"⟩ := rfl
  have hroot : w.directory = [] := rfl
  have hdirectory : w.tree.get? w.directory = some .directory := rfl
  have hsep : separator ∈ "a/b".toList := by decide
  -- The world is opaque from here on, so that no step evaluates the run.
  clear_value r w
  have hrun := first_extraction hbase hname hhollow hdirectory hclear husable (hlaunched _) hmap
  dsimp only at hrun
  rw [if_pos hsep, hroot] at hrun
  exact ⟨hname, hmap, hrun⟩

end Run
end DumpWorkbench
