import DumpWorkbench.Proofs.Tree.Files
import DumpWorkbench.Proofs.World.Actions

namespace DumpWorkbench

open Simulation

namespace Simulation

variable {w : World} {p : Path} {content : Bytes}

theorem writeFile_eq (p : Path) (content : Bytes) (w : World) :
    (Files.writeFile p content : Simulation _) w =
      ((Tree.Calls.change (fun t d => t.writeFile d p content) w.directory w.tree).1,
        { w with tree :=
          (Tree.Calls.change (fun t d => t.writeFile d p content) w.directory w.tree).2 }) := rfl

theorem writeFile_of_error {e : IoFault} (h : w.tree.openFile w.directory p = .error e) :
    (Files.writeFile p content : Simulation _) w = (.error e, w) := by
  have hwrite : w.tree.writeFile w.directory p content = .error e := by
    rw [Tree.writeFile, h]
    rfl
  rw [writeFile_eq, Tree.Calls.change, hwrite]

theorem writeFile_of_ok {spot : Location} {old : Bytes} {executable : Bool}
    (h : w.tree.openFile w.directory p = .ok (spot, old, executable)) :
    (Files.writeFile p content : Simulation _) w =
      (.ok (), { w with tree := w.tree.put spot (.file content executable) }) := by
  have hwrite : w.tree.writeFile w.directory p content =
      .ok (w.tree.put spot (.file content executable)) := by
    rw [Tree.writeFile, h]
    rfl
  rw [writeFile_eq, Tree.Calls.change, hwrite]

end Simulation

namespace SectionMap

variable {w : World} {ws : Workspace} {name : String}

theorem outcome_store_error {e : IoFault}
    (h : w.tree.openFile w.directory (ws.mapPath name) = .error e) (map : SectionMap) :
    (outcome (map.store ws name) w).1 = .error (.filesystem (ws.mapPath name) e) ∧
      w.Leaves [] w.tree (outcome (map.store ws name) w).2 := by
  unfold store
  dsimp only
  rw [outcome_bind_lift, outcome_bind_lift]
  have hquiet := quiet_log ⟨.info, "dumpsift::invoker::map_extraction",
    s!"Writing radare results ({(Utf8.encode map.encode).length}) to {(ws.mapPath name).text}"⟩ w
  rw [← hquiet.tree, ← hquiet.directory] at h
  rw [writeFile_of_error h]
  exact ⟨rfl, hquiet⟩

theorem outcome_store_ok {spot : Location} {old : Bytes} {executable : Bool}
    (h : w.tree.openFile w.directory (ws.mapPath name) = .ok (spot, old, executable))
    (map : SectionMap) :
    (outcome (map.store ws name) w).1 = .ok (ws.mapPath name) ∧
      w.Leaves [] (w.tree.put spot (.file (Utf8.encode map.encode) executable))
        (outcome (map.store ws name) w).2 := by
  unfold store
  dsimp only
  rw [outcome_bind_lift, outcome_bind_lift]
  have hquiet := quiet_log ⟨.info, "dumpsift::invoker::map_extraction",
    s!"Writing radare results ({(Utf8.encode map.encode).length}) to {(ws.mapPath name).text}"⟩ w
  rw [← hquiet.tree, ← hquiet.directory] at h
  rw [writeFile_of_ok h, hquiet.tree]
  exact ⟨rfl, hquiet.change (World.Leaves.withTree _ _)⟩

end SectionMap

namespace Run

def settled (r : Run) (ws : Workspace) (name : String) (directory : Location) :
    Except IoFault Exit × Tree → Except Fault Record × Tree
  | (.error e, t) => (.error (.launch "radare2" r.settings.radare.text e), t)
  | (.ok x, t) =>
    match SectionMap.decode x.stdout with
    | .error e => (.error (.ofRefusal e), t)
    | .ok map =>
      match t.openFile directory (ws.mapPath name) with
      | .error e => (.error (.filesystem (ws.mapPath name) e), t)
      | .ok (spot, _, executable) =>
        (.ok ((Record.ofTool .mapExtraction ⟨x.stdout, x.stderr, x.code, ⟨0⟩⟩
            (some (ws.mapPath name))).withSections map.size),
          t.put spot (.file (Utf8.encode map.encode) executable))

def query (r : Run) (ws : Workspace) (name : String) : Tool.Command :=
  (Tool.sectionQuery r.settings.radare (ws.dumpPath name r.settings.extension)).withProgress true

def keep (r : Run) (ws : Workspace) (name : String) (o : Tool.Output) (map : SectionMap) :
    Action Record := do
  logMap (m := Simulation) name map
  let path ← map.store ws name
  notify (m := Simulation) r.console (.success s!"Wrote {map.size} sections to {path.text}")
  return (Record.ofTool .mapExtraction o (some path)).withSections map.size

variable {w w' : World} {cs : List (List String)} {left : Tree} {ws : Workspace} {name : String}

theorem openFile_logMap (hleft : w.Leaves cs left w') (name : String) (map : SectionMap)
    (p : Path) :
    let logged := ((logMap name map : Simulation Unit) w').2
    logged.tree.openFile logged.directory p = left.openFile w.directory p := by
  intro logged
  have hlogged := hleft.quiet (quiet_logMap name map w')
  rw [hlogged.tree, hlogged.directory]

theorem outcome_keep_error (r : Run) {e : IoFault} (hleft : w.Leaves cs left w')
    (h : left.openFile w.directory (ws.mapPath name) = .error e) (o : Tool.Output)
    (map : SectionMap) :
    (outcome (r.keep ws name o map) w').1 = .error (.filesystem (ws.mapPath name) e) ∧
      w.Leaves cs left (outcome (r.keep ws name o map) w').2 := by
  have hlogged := hleft.quiet (quiet_logMap name map w')
  have hopen := (openFile_logMap hleft name map (ws.mapPath name)).trans h
  obtain ⟨hstore, hkept⟩ := SectionMap.outcome_store_error hopen map
  unfold keep
  rw [outcome_bind_lift, outcome_bind_error hstore]
  dsimp only
  exact ⟨rfl, hlogged.quiet hkept⟩

theorem outcome_keep_ok (r : Run) {spot : Location} {old : Bytes} {executable : Bool}
    (hleft : w.Leaves cs left w')
    (h : left.openFile w.directory (ws.mapPath name) = .ok (spot, old, executable))
    (o : Tool.Output) (map : SectionMap) :
    (outcome (r.keep ws name o map) w').1 =
        .ok ((Record.ofTool .mapExtraction o (some (ws.mapPath name))).withSections map.size) ∧
      w.Leaves cs (left.put spot (.file (Utf8.encode map.encode) executable))
        (outcome (r.keep ws name o map) w').2 := by
  have hlogged := hleft.quiet (quiet_logMap name map w')
  have hopen := (openFile_logMap hleft name map (ws.mapPath name)).trans h
  obtain ⟨hstore, hput⟩ := SectionMap.outcome_store_ok hopen map
  rw [hlogged.tree] at hput
  unfold keep
  rw [outcome_bind_lift, outcome_bind_ok hstore, outcome_bind_lift, outcome_pure]
  have hshown := quiet_notify r.console
    (.success s!"Wrote {map.size} sections to {(ws.mapPath name).text}")
    (outcome (map.store ws name) (logMap (m := Simulation) name map w').2).2
  dsimp only
  exact ⟨rfl, (hlogged.change hput).quiet hshown⟩

theorem outcome_extractMap (r : Run) (ws : Workspace) (name : String) (w : World) :
    (outcome (r.extractMap ws name) w).1 =
        (r.settled ws name w.directory (launched (r.query ws name) w)).1 ∧
      w.Leaves [(r.query ws name).words]
        (r.settled ws name w.directory (launched (r.query ws name) w)).2
        (outcome (r.extractMap ws name) w).2 := by
  have hextract : r.extractMap ws name =
      liftM ((r.query ws name).run : Simulation _) >>= fun ran => liftM ran.1 >>= fun o =>
        liftM ((SectionMap.decode o.stdout).mapError Fault.ofRefusal) >>= r.keep ws name o := rfl
  obtain ⟨hresult, hleft⟩ := run_command (r.query ws name) w
  rw [hextract, outcome_bind_lift, hresult]
  -- From here on only the tool's end and the tree that it left count.
  generalize ((r.query ws name).run (m := Simulation) w).2 = w₁ at hleft ⊢
  generalize launched (r.query ws name) w = l at hleft ⊢
  obtain ⟨result, left⟩ := l
  cases result with
  | error e => exact ⟨rfl, hleft⟩
  | ok x =>
    rw [received, outcome_bind_except_ok]
    unfold settled
    dsimp only
    cases SectionMap.decode x.stdout with
    | error e => exact ⟨rfl, hleft⟩
    | ok map =>
      rw [Except.mapError, outcome_bind_except_ok]
      dsimp only
      cases h : left.openFile w.directory (ws.mapPath name) with
      | error e => exact outcome_keep_error r hleft h _ map
      | ok target =>
        obtain ⟨spot, old, executable⟩ := target
        exact outcome_keep_ok r hleft h _ map

theorem outcome_mapExtraction (r : Run) (ws : Workspace) (name : String) (w : World) :
    (outcome (r.mapExtraction ws name) w).1 =
        (r.settled ws name w.directory (launched (r.query ws name) w)).1 ∧
      w.Leaves [(r.query ws name).words]
        (r.settled ws name w.directory (launched (r.query ws name) w)).2
        (outcome (r.mapExtraction ws name) w).2 := by
  unfold mapExtraction
  rw [outcome_began]
  have hstart := leaves_began r.console s!"Extracting memory sections from {name}"
    (.start s!"Extracting memory sections from {name}") w
  generalize began r.console s!"Extracting memory sections from {name}"
    (.start s!"Extracting memory sections from {name}") w = started at hstart ⊢
  obtain ⟨hresult, hleft⟩ := outcome_logged
    (fun e => s!"Failed extracting memory sections from {name}: {e.message}")
    (outcome_extractMap r ws name started)
  rw [launched_congr _ hstart, hstart.directory] at hresult hleft
  cases hsettled : (r.settled ws name w.directory (launched (r.query ws name) w)).1 with
  | error e =>
    rw [outcome_bind_error (hresult.trans hsettled)]
    exact ⟨rfl, hstart.after_quiet hleft⟩
  | ok record =>
    rw [outcome_bind_ok (hresult.trans hsettled), outcome_bind_lift, outcome_pure]
    exact ⟨rfl, (hstart.after_quiet hleft).quiet (quiet_log _ _)⟩

end Run
end DumpWorkbench
