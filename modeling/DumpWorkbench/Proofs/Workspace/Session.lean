import DumpWorkbench.Proofs.Run.Layout
import DumpWorkbench.Proofs.Run.MapExtraction
import DumpWorkbench.Proofs.Run.Sift
import DumpWorkbench.Proofs.Tree.Growth

namespace DumpWorkbench

open Simulation

namespace Tree

variable {written : Location → Bytes → Prop}

theorem grows_makeEach (t : Tree) (directory : Location) (ps : List Path) :
    Grows written t (t.makeEach directory ps).2 := by
  induction ps generalizing t with
  | nil => exact .refl written t
  | cons p ps ih =>
    have hmade : Grows written t (t.makeDirectories directory p).2 :=
      grows_makeDirectories t directory p
    unfold makeEach
    generalize t.makeDirectories directory p = made at hmade ⊢
    obtain ⟨result, left⟩ := made
    cases result with
    | ok _ => exact hmade.trans (ih left)
    | error e => exact hmade

end Tree

namespace Workspace

/-- What is asked of a workspace, or on behalf of a run in one. -/
inductive Call where
  | ensure (base : Path)
  | makeSearchPath (ws : Workspace) (name : String)
  | prepare (ws : Workspace) (sifter : Path) (name ext : String) (threads : Nat)
  | announce (ws : Workspace) (sifter : Path) (name ext : String) (threads : Nat)
  | store (map : SectionMap) (ws : Workspace) (name : String)
  | plan (r : Run) (name : String) (requested : List Operation)

inductive Answer where
  | workspace (ws : Workspace)
  | path (p : Path)
  | sift (plan : SiftPlan)
  | entries (entries : List (String × String))

def Call.answer : Call → Action Answer
  | .ensure base => .workspace <$> Workspace.ensure base
  | .makeSearchPath ws name => .path <$> ws.makeSearchPath name
  | .prepare ws sifter name ext threads => .sift <$> SiftPlan.prepare ws sifter name ext threads
  | .announce ws sifter name ext threads =>
    pure (.sift (SiftPlan.announced ws sifter name ext threads))
  | .store map ws name => .path <$> map.store ws name
  | .plan r name requested => liftM ((r.plan name requested).map Answer.entries)

/-- The calls of a session, each with its answer or its fault. -/
abbrev Transcript := List (Call × Except Fault Answer)

/-- Makes calls one after the other. A call that fails does not end the session. -/
def session (calls : List Call) : Simulation Transcript :=
  calls.mapM fun c => do return (c, ← c.answer.run)

/-- A map was stored at a path that leads to a location. -/
def Stored (transcript : Transcript) (w : World) (l : Location) (content : Bytes) : Prop :=
  ∃ map ws name p place, (Call.store map ws name, .ok (.path p)) ∈ transcript ∧
    w.tree.locate w.directory p = .ok place ∧ place.location = l ∧ content = Utf8.encode map.encode

variable {α β : Type} {w w' w'' : World} {t : Tree} {transcript later : Transcript}

/-- The second world is left of the first by calls that launch nothing, and the tree has grown by
nothing but directories and the maps that were stored. -/
structure Kept (transcript : Transcript) (w w' : World) : Prop where
  grows : w.tree.Grows (Stored transcript w') w'.tree
  leaves : w.Leaves [] w'.tree w'

theorem Kept.of_leaves (h : w.Leaves [] t w') (hgrows : w.tree.Grows (Stored transcript w') t) :
    Kept transcript w w' := by
  obtain rfl := h.tree
  exact ⟨hgrows, h⟩

theorem kept_makeSearchPath (ws : Workspace) (name : String) (w : World) :
    Kept transcript w (outcome (ws.makeSearchPath name) w).2 := by
  rw [outcome_makeSearchPath]
  exact .of_leaves (World.Leaves.withTree w _) (Tree.grows_makeDirectories _ _ _)

/-- A map that is stored is at the end of the path that is answered. -/
theorem kept_store (map : SectionMap) (ws : Workspace) (name : String) (w : World) :
    Kept [(.store map ws name, (outcome (map.store ws name) w).1.map Answer.path)] w
      (outcome (map.store ws name) w).2 := by
  cases hopen : w.tree.openFile w.directory (ws.mapPath name) with
  | error e => exact .of_leaves (SectionMap.outcome_store_error hopen map).2 (.refl _ _)
  | ok target =>
    obtain ⟨spot, old, executable⟩ := target
    obtain ⟨hresult, hleft⟩ := SectionMap.outcome_store_ok hopen map
    apply Kept.of_leaves hleft
    apply Tree.grows_put hopen
    obtain ⟨hplace, hspot⟩ := Tree.openFile_eq_ok hopen
    refine ⟨map, ws, name, ws.mapPath name, ⟨spot, false⟩, ?_, ?_, rfl, rfl⟩
    · rw [hresult]
      exact List.mem_cons_self
    · -- The path leads through directories, and these are there after the file is written.
      rw [hleft.tree, hleft.directory]
      exact (Tree.Extends.put hspot _).locate hplace

theorem kept_answer (c : Call) (w : World) :
    Kept [(c, (outcome c.answer w).1)] w (outcome c.answer w).2 := by
  cases c with
  | ensure base =>
    rw [Call.answer, outcome_map]
    exact .of_leaves (Run.outcome_ensure base w).2 (Tree.grows_makeEach _ _ _)
  | makeSearchPath ws name =>
    rw [Call.answer, outcome_map]
    exact kept_makeSearchPath ws name w
  | prepare ws sifter name ext threads =>
    have hprepare : (SiftPlan.prepare ws sifter name ext threads : Action SiftPlan) =
        (fun output => SiftPlan.into output ws sifter name ext threads) <$>
          ws.makeSearchPath name := bind_pure_comp _ _
    rw [Call.answer, outcome_map, hprepare, outcome_map]
    exact kept_makeSearchPath ws name w
  | announce ws sifter name ext threads =>
    exact .of_leaves (World.Leaves.refl w) (Tree.Grows.refl _ _)
  | store map ws name =>
    rw [Call.answer, outcome_map]
    dsimp only
    exact kept_store map ws name w
  | plan r name requested =>
    have hanswer : outcome (Call.plan r name requested).answer w =
        ((r.plan name requested).map Answer.entries, w) := outcome_except _ w
    rw [hanswer]
    exact .of_leaves (World.Leaves.refl w) (Tree.Grows.refl _ _)

theorem Stored.append (h : Kept later w w') {l : Location} {content : Bytes}
    (hstored : Stored transcript w l content) : Stored (transcript ++ later) w' l content := by
  obtain ⟨map, ws, name, p, place, hmem, hplace, hl, hcontent⟩ := hstored
  refine ⟨map, ws, name, p, place, List.mem_append_left _ hmem, ?_, hl, hcontent⟩
  rw [h.leaves.directory]
  exact h.grows.extends.locate hplace

theorem Kept.trans (h : Kept transcript w w') (h' : Kept later w' w'') :
    Kept (transcript ++ later) w w'' := by
  have hfirst : w.tree.Grows (Stored (transcript ++ later) w'') w'.tree :=
    h.grows.mono fun _ _ hstored => hstored.append h'
  have hsecond : w'.tree.Grows (Stored (transcript ++ later) w'') w''.tree := by
    apply h'.grows.mono
    rintro l content ⟨map, ws, name, p, place, hmem, hrest⟩
    exact ⟨map, ws, name, p, place, List.mem_append_right _ hmem, hrest⟩
  exact ⟨hfirst.trans hsecond, h.leaves.trans h'.leaves⟩

theorem session_cons (c : Call) (calls : List Call) (w : World) :
    session (c :: calls) w =
      ((c, (outcome c.answer w).1) :: (session calls (outcome c.answer w).2).1,
        (session calls (outcome c.answer w).2).2) := by
  unfold session
  rw [List.mapM_cons]
  rfl

theorem kept_session (calls : List Call) (w : World) :
    Kept (session calls w).1 w (session calls w).2 := by
  induction calls generalizing w with
  | nil => exact ⟨.refl _ _, .refl w⟩
  | cons c calls ih =>
    rw [session_cons]
    exact (kept_answer c w).trans (ih _)

theorem calls_session (calls : List Call) (w : World) :
    (session calls w).1.map Prod.fst = calls := by
  induction calls generalizing w with
  | nil => rfl
  | cons c calls ih => rw [session_cons, List.map_cons, ih]

/-- However the calls of a session end, no directory is lost, every file is there with its bytes
unless a map was stored at its place, and what is new is a directory or a stored map. No program is
launched. -/
theorem session_only_stores (calls : List Call) (w : World) :
    let transcript := (session calls w).1
    let after := (session calls w).2
    transcript.map Prod.fst = calls ∧
    (∀ l, w.tree.get? l = some .directory → after.tree.get? l = some .directory) ∧
    (∀ l old executable, w.tree.get? l = some (.file old executable) →
      ∃ content, after.tree.get? l = some (.file content executable) ∧
        (content = old ∨ Stored transcript after l content)) ∧
    (∀ l node, w.tree.get? l = none → after.tree.get? l = some node →
      node = .directory ∨
        ∃ content, node = .file content false ∧ Stored transcript after l content) ∧
    after.launches = w.launches := by
  intro transcript after
  obtain ⟨hgrows, hleaves⟩ := kept_session calls w
  refine ⟨calls_session calls w, hgrows.extends, fun l old executable => hgrows.of_file,
    fun l node => hgrows.of_missing, ?_⟩
  have hlaunches := hleaves.launches
  rwa [List.append_nil] at hlaunches

end Workspace
end DumpWorkbench
