import DumpWorkbench.Run
import DumpWorkbench.World

namespace DumpWorkbench

def Event.launch? : Event → Option (List String)
  | .launched words => some words
  | _ => none

/-- The commands that were launched, the earliest first. -/
def World.launches (w : World) : List (List String) := w.events.filterMap Event.launch?

/-- The second world is what calls leave of the first: they launched some commands and left a
tree. -/
structure World.Leaves (w : World) (commands : List (List String)) (tree : Tree) (w' : World) :
    Prop where
  launches : w'.launches = w.launches ++ commands
  tree : w'.tree = tree
  directory : w'.directory = w.directory
  launcher : w'.launcher = w.launcher
  environment : w'.environment = w.environment

/-- A world without files, where every program ends at once. -/
def World.bare : World where
  tree := .empty
  directory := []
  launcher := fun _ _ _ tree => (.ok ⟨[], [], some 0⟩, tree)
  environment := []
  terminal := false
  time := .epoch
  sink := none
  pending := ""
  events := []

namespace World.Leaves

variable {w w' w'' : World} {cs cs' : List (List String)} {t t' : Tree}

theorem refl (w : World) : w.Leaves [] w.tree w := ⟨(List.append_nil _).symm, rfl, rfl, rfl, rfl⟩

theorem trans (h : w.Leaves cs t w') (h' : w'.Leaves cs' t' w'') : w.Leaves (cs ++ cs') t' w'' := by
  refine ⟨?_, h'.tree, h'.directory.trans h.directory, h'.launcher.trans h.launcher,
    h'.environment.trans h.environment⟩
  rw [h'.launches, h.launches, List.append_assoc]

theorem change (h : w.Leaves cs t w') (h' : w'.Leaves [] t' w'') : w.Leaves cs t' w'' := by
  have hboth := h.trans h'
  rw [List.append_nil] at hboth
  exact hboth

theorem quiet (h : w.Leaves cs t w') (h' : w'.Leaves [] w'.tree w'') : w.Leaves cs t w'' :=
  h.change (h.tree ▸ h')

theorem after_quiet (h : w.Leaves [] w.tree w') (h' : w'.Leaves cs t w'') : w.Leaves cs t w'' :=
  h.trans h'

theorem withTree (w : World) (t : Tree) : w.Leaves [] t { w with tree := t } :=
  ⟨(List.append_nil _).symm, rfl, rfl, rfl, rfl⟩

theorem withLog (w : World) (sink : Option Log.Sink) (pending : String) :
    w.Leaves [] w.tree { w with sink := sink, pending := pending } :=
  ⟨(List.append_nil _).symm, rfl, rfl, rfl, rfl⟩

end World.Leaves

namespace Simulation

variable {α β : Type} {w w' : World} {e : Fault}

abbrev Action (α : Type) := ExceptT Fault Simulation α

/-- How an action ends in a world, and the world that it leaves. -/
def outcome (x : Action α) (w : World) : Except Fault α × World := x w

theorem outcome_pure (a : α) (w : World) : outcome (pure a) w = (.ok a, w) := rfl

theorem outcome_bind_lift (x : Simulation α) (f : α → Action β) (w : World) :
    outcome (liftM x >>= f) w = outcome (f (x w).1) (x w).2 := rfl

theorem outcome_except (r : Except Fault α) (w : World) : outcome (liftM r) w = (r, w) := by
  cases r <;> rfl

theorem outcome_bind_except_ok (a : α) (f : α → Action β) (w : World) :
    outcome (liftM (.ok a : Except Fault α) >>= f) w = outcome (f a) w := rfl

theorem outcome_bind (x : Action α) (f : α → Action β) (w : World) :
    outcome (x >>= f) w = ExceptT.bindCont f (outcome x w).1 (outcome x w).2 := rfl

theorem outcome_bind_ok {x : Action α} {a : α} (h : (outcome x w).1 = .ok a)
    (f : α → Action β) : outcome (x >>= f) w = outcome (f a) (outcome x w).2 := by
  rw [outcome_bind, h]
  rfl

theorem outcome_bind_error {x : Action α} (h : (outcome x w).1 = .error e)
    (f : α → Action β) : outcome (x >>= f) w = (.error e, (outcome x w).2) := by
  rw [outcome_bind, h]
  rfl

theorem outcome_map (f : α → β) (x : Action α) (w : World) :
    outcome (f <$> x) w = ((outcome x w).1.map f, (outcome x w).2) := by
  have hbind : f <$> x = x >>= fun a => pure (f a) := (bind_pure_comp f x).symm
  rw [hbind, outcome_bind]
  generalize outcome x w = ended
  obtain ⟨result, left⟩ := ended
  cases result <;> rfl

theorem outcome_forM (f : α → Simulation PUnit) (as : List α) (w : World) :
    outcome (as.forM fun a => (liftM (f a) : Action PUnit)) w = (.ok ⟨⟩, ((as.forM f) w).2) := by
  induction as generalizing w with
  | nil => rfl
  | cons a as ih => exact ih (f a w).2

theorem outcome_bind_forM (f : α → Simulation PUnit) (as : List α) (g : PUnit → Action β)
    (w : World) :
    outcome ((as.forM fun a => (liftM (f a) : Action PUnit)) >>= g) w =
      outcome (g ⟨⟩) ((as.forM f) w).2 := by
  rw [outcome_bind, outcome_forM]
  rfl

theorem outcome_tryCatch_ok {x : Action α} {a : α} (h : (outcome x w).1 = .ok a)
    (f : Fault → Action α) : outcome (tryCatch x f) w = (.ok a, (outcome x w).2) := by
  have hx : x w = (.ok a, (x w).2) := Prod.ext h rfl
  change ExceptT.tryCatch x f w = _
  unfold ExceptT.tryCatch ExceptT.mk
  simp only [bind, StateT.bind]
  rw [hx]
  rfl

theorem outcome_tryCatch_error {x : Action α} (h : (outcome x w).1 = .error e)
    (f : Fault → Action α) : outcome (tryCatch x f) w = outcome (f e) (outcome x w).2 := by
  have hx : x w = (.error e, (x w).2) := Prod.ext h rfl
  change ExceptT.tryCatch x f w = f e (x w).2
  unfold ExceptT.tryCatch ExceptT.mk
  simp only [bind, StateT.bind]
  rw [hx]

/-- A call that leads from every world to one that is related to it. -/
def Keeps (R : World → World → Prop) (x : Simulation α) : Prop := ∀ w : World, R w (x w).2

section Keeps

variable {R : World → World → Prop} (htrans : ∀ w w' w'', R w w' → R w' w'' → R w w'')

include htrans

theorem Keeps.bind {x : Simulation α} {f : α → Simulation β} (hx : Keeps R x)
    (hf : ∀ a, Keeps R (f a)) : Keeps R (x >>= f) :=
  fun w => htrans _ _ _ (hx w) (hf (x w).1 (x w).2)

theorem keeps_forM (hrefl : ∀ w, R w w) {f : α → Simulation PUnit} (hf : ∀ a, Keeps R (f a))
    (as : List α) : Keeps R (as.forM f) := by
  induction as with
  | nil => exact hrefl
  | cons a as ih => exact Keeps.bind htrans (hf a) fun _ => ih

theorem keeps_logEnd (hrefl : ∀ w, R w w) (hlog : ∀ e, Keeps R (Host.log e : Simulation Unit))
    (tool : String) (o : Tool.Output) : Keeps R (Tool.logEnd tool o : Simulation Unit) := by
  have hstderr : Keeps R (if !o.stderr.isEmpty then
      Host.log ⟨.debug, Tool.logTarget, Tool.stderrNote tool o.stderr⟩
      else pure () : Simulation Unit) := by
    split
    · exact hlog _
    · exact hrefl
  unfold Tool.logEnd
  dsimp only
  split
  · exact Keeps.bind htrans (hlog _) fun _ => hstderr
  · exact hstderr

/-- An action of two steps keeps to what both keep to, also if the first fails. -/
theorem Keeps.bind_action {x : Action α} {f : α → Action β} (hx : Keeps R (outcome x))
    (hf : ∀ a, Keeps R (outcome (f a))) : Keeps R (outcome (x >>= f)) := by
  intro w
  cases h : (outcome x w).1 with
  | error e =>
    rw [outcome_bind_error h]
    exact hx w
  | ok a =>
    rw [outcome_bind_ok h]
    exact htrans _ _ _ (hx w) (hf a _)

end Keeps

def Quiet (x : Simulation α) : Prop := ∀ w : World, w.Leaves [] w.tree (x w).2

theorem quiet_pure (a : α) : Quiet (pure a) := fun w => World.Leaves.refl w

theorem Quiet.bind {x : Simulation α} {f : α → Simulation β} (hx : Quiet x)
    (hf : ∀ a, Quiet (f a)) : Quiet (x >>= f) :=
  Keeps.bind (R := fun w w' => w.Leaves [] w.tree w') (fun _ _ _ h h' => h.quiet h') hx hf

theorem quiet_forM {f : α → Simulation PUnit} (hf : ∀ a, Quiet (f a)) (as : List α) :
    Quiet (as.forM f) :=
  keeps_forM (R := fun w w' => w.Leaves [] w.tree w') (fun _ _ _ h h' => h.quiet h')
    World.Leaves.refl hf as

theorem quiet_look (f : World → α) : Quiet (look f) := fun w => World.Leaves.refl w

theorem leaves_record (w : World) {e : Event} (he : e.launch? = none) :
    w.Leaves [] w.tree (w.record e) := by
  refine ⟨?_, rfl, rfl, rfl, rfl⟩
  change (w.events ++ [e]).filterMap Event.launch? = _
  rw [List.filterMap_append, List.filterMap_cons_none he]
  rfl

theorem quiet_record {e : Event} (he : e.launch? = none) : Quiet (act (·.record e)) :=
  fun w => leaves_record w he

theorem quiet_log (e : Log.Entry) : Quiet (Host.log e : Simulation Unit) := by
  intro w
  change w.Leaves [] w.tree (w.log e)
  have hlogged := leaves_record w (e := .logged e) rfl
  unfold World.log
  dsimp only
  split
  · exact hlogged
  · split
    · have hpending (line : String) : (w.record (.logged e)).Leaves [] (w.record (.logged e)).tree
          { w.record (.logged e) with pending := (w.record (.logged e)).pending ++ line } :=
        ⟨(List.append_nil _).symm, rfl, rfl, rfl, rfl⟩
      -- A sink keeps the start of a line until its end comes.
      split
      · exact (hlogged.quiet (hpending _)).quiet (leaves_record _ rfl)
      · exact hlogged.quiet (hpending _)
    · exact hlogged

theorem quiet_notify (c : Console) (n : Notice) : Quiet (Run.notify c n : Simulation Unit) :=
  (quiet_look _).bind fun _ => quiet_forM (fun _ => quiet_record rfl) _

def began (c : Console) (message : String) (n : Notice) (w : World) : World :=
  ((Run.notify c n : Simulation Unit) ((Run.log .info message : Simulation Unit) w).2).2

theorem leaves_began (c : Console) (message : String) (n : Notice) (w : World) :
    w.Leaves [] w.tree (began c message n w) :=
  (quiet_log _ w).quiet (quiet_notify c n _)

theorem outcome_began (c : Console) (message : String) (n : Notice) (x : Action α) (w : World) :
    outcome (do Run.log (m := Simulation) .info message; Run.notify (m := Simulation) c n; x) w =
      outcome x (began c message n w) := rfl

theorem quiet_logMap (name : String) (map : SectionMap) :
    Quiet (Run.logMap name map : Simulation Unit) :=
  (quiet_log _).bind fun _ => quiet_forM (fun _ => quiet_log _) _

theorem quiet_logEnd (tool : String) (o : Tool.Output) :
    Quiet (Tool.logEnd tool o : Simulation Unit) :=
  keeps_logEnd (R := fun w w' => w.Leaves [] w.tree w') (fun _ _ _ h h' => h.quiet h')
    World.Leaves.refl quiet_log tool o

theorem outcome_logged (note : Fault → String) {x : Action α} {result : Except Fault α}
    {cs : List (List String)} {t : Tree}
    (h : (outcome x w).1 = result ∧ w.Leaves cs t (outcome x w).2) :
    (outcome (Run.logged note x) w).1 = result ∧
      w.Leaves cs t (outcome (Run.logged note x) w).2 := by
  obtain ⟨hresult, hleft⟩ := h
  unfold Run.logged
  cases result with
  | ok a =>
    rw [outcome_tryCatch_ok hresult]
    exact ⟨rfl, hleft⟩
  | error e =>
    rw [outcome_tryCatch_error hresult, outcome_bind_lift]
    exact ⟨rfl, hleft.quiet (quiet_log _ _)⟩

/-- How a command that is launched in a world ends, and the tree that it leaves. -/
def launched (c : Tool.Command) (w : World) : Except IoFault Exit × Tree :=
  w.launcher w.environment w.directory c.words w.tree

theorem launched_congr (c : Tool.Command) (h : w.Leaves [] w.tree w') :
    launched c w' = launched c w := by
  rw [launched, h.tree, h.directory, h.launcher, h.environment]
  rfl

def entering (c : Tool.Command) (s : Tool.State) (w : World) : World :=
  if c.watched then (w.record (.entered c.tool s)).record (.told c.tool s)
  else w.record (.entered c.tool s)

theorem enter_eq (c : Tool.Command) (s : Tool.State) (w : World) :
    (c.enter s : Simulation Tool.Command) w = ({ c with state := s }, entering c s w) := by
  obtain ⟨tool, program, arguments, state, watched⟩ := c
  cases watched <;> rfl

theorem quiet_enter (c : Tool.Command) (s : Tool.State) :
    Quiet (c.enter s : Simulation Tool.Command) := by
  intro w
  have hentered := leaves_record w (e := .entered c.tool s) rfl
  rw [enter_eq, entering]
  split
  · exact hentered.quiet (leaves_record _ rfl)
  · exact hentered

def finish (c : Tool.Command) :
    Except IoFault Exit → Simulation (Except Fault Tool.Output × Tool.Command)
  | .error e => do
    let c ← c.enter .failed
    return (.error (.launch c.tool c.program.text e), c)
  | .ok x => do
    let o : Tool.Output := ⟨x.stdout, x.stderr, x.code, ⟨0⟩⟩
    let c ← c.enter .completed
    Tool.logEnd c.tool o
    return (.ok o, c)

theorem quiet_finish (c : Tool.Command) (r : Except IoFault Exit) : Quiet (finish c r) := by
  cases r with
  | error e => exact (quiet_enter c .failed).bind fun _ => quiet_pure _
  | ok x =>
    exact (quiet_enter c .completed).bind fun _ => (quiet_logEnd _ _).bind fun _ => quiet_pure _

def received (c : Tool.Command) : Except IoFault Exit → Except Fault Tool.Output
  | .error e => .error (.launch c.tool c.program.text e)
  | .ok x => .ok ⟨x.stdout, x.stderr, x.code, ⟨0⟩⟩

theorem finish_error (c : Tool.Command) (e : IoFault) (w : World) :
    finish c (.error e) w = ((received c (.error e), { c with state := .failed }),
      entering c .failed w) := by
  obtain ⟨tool, program, arguments, state, watched⟩ := c
  cases watched <;> rfl

theorem finish_ok (c : Tool.Command) (x : Exit) (w : World) :
    let o : Tool.Output := ⟨x.stdout, x.stderr, x.code, ⟨0⟩⟩
    finish c (.ok x) w = ((.ok o, { c with state := .completed }),
      ((Tool.logEnd c.tool o : Simulation Unit) (entering c .completed w)).2) := by
  obtain ⟨tool, program, arguments, state, watched⟩ := c
  cases watched <;> rfl

theorem finish_received (c : Tool.Command) (r : Except IoFault Exit) (w : World) :
    (finish c r w).1.1 = received c r := by
  cases r with
  | error e => rw [finish_error]
  | ok x =>
    rw [finish_ok]
    rfl

theorem leaves_launch (w : World) (words : List String) :
    w.Leaves [words] (w.launcher w.environment w.directory words w.tree).2 (w.launch words).2 := by
  refine ⟨?_, rfl, rfl, rfl, rfl⟩
  change (w.events ++ [Event.launched words]).filterMap Event.launch? = _
  rw [List.filterMap_append]
  rfl

def starting (c : Tool.Command) (w : World) : World :=
  entering c .running (w.log ⟨.info, Tool.logTarget, s!"Running {c.tool}: {c.rendered}"⟩)

theorem leaves_starting (c : Tool.Command) (w : World) : w.Leaves [] w.tree (starting c w) := by
  have hentered := quiet_enter c .running
    (w.log ⟨.info, Tool.logTarget, s!"Running {c.tool}: {c.rendered}"⟩)
  rw [enter_eq] at hentered
  exact (quiet_log _ w).quiet hentered

theorem run_eq (c : Tool.Command) (w : World) :
    (c.run : Simulation _) w =
      finish { c with state := .running } ((starting c w).launch c.words).1
        ((starting c w).launch c.words).2 := by
  obtain ⟨tool, program, arguments, state, watched⟩ := c
  unfold Tool.Command.run finish
  cases watched <;> rfl

/-- A run launches its command once, leaves the tree that the launcher leaves, and keeps both
streams as they were. -/
theorem run_command (c : Tool.Command) (w : World) :
    ((c.run : Simulation _) w).1.1 = received c (launched c w).1 ∧
    w.Leaves [c.words] (launched c w).2 ((c.run : Simulation _) w).2 := by
  have hquiet := leaves_starting c w
  have hend : ((starting c w).launch c.words).1 = (launched c w).1 := by
    rw [← launched_congr c hquiet]
    rfl
  have htree : (starting c w).Leaves [c.words] (launched c w).2
      ((starting c w).launch c.words).2 := by
    rw [← launched_congr c hquiet]
    exact leaves_launch (starting c w) c.words
  rw [run_eq, hend]
  exact ⟨finish_received _ _ _, (hquiet.after_quiet htree).quiet (quiet_finish _ _ _)⟩

theorem outcome_makeDirectory (p : Path) (w : World) :
    outcome (Workspace.makeDirectory p) w =
      ((w.tree.makeDirectories w.directory p).1.mapError (.filesystem p),
        { w with tree := (w.tree.makeDirectories w.directory p).2 }) := by
  have hcall : (Files.makeDirectories p : Simulation _) w =
      ((w.tree.makeDirectories w.directory p).1,
        { w with tree := (w.tree.makeDirectories w.directory p).2 }) := rfl
  unfold Workspace.makeDirectory
  rw [outcome_bind_lift, hcall]
  dsimp only
  cases (w.tree.makeDirectories w.directory p).1 <;> rfl

theorem outcome_makeSearchPath (ws : Workspace) (name : String) (w : World) :
    outcome (ws.makeSearchPath name) w =
      (((w.tree.makeDirectories w.directory (ws.searchPath name)).1.mapError
          (.filesystem (ws.searchPath name))).map fun _ => ws.searchPath name,
        { w with tree := (w.tree.makeDirectories w.directory (ws.searchPath name)).2 }) := by
  have hmake := outcome_makeDirectory (ws.searchPath name) w
  unfold Workspace.makeSearchPath
  cases h : (w.tree.makeDirectories w.directory (ws.searchPath name)).1 with
  | ok _ =>
    have hok : (outcome (Workspace.makeDirectory (ws.searchPath name)) w).1 = .ok () := by
      rw [hmake, h]
      rfl
    rw [outcome_bind_ok hok, hmake]
    rfl
  | error e =>
    have herror : (outcome (Workspace.makeDirectory (ws.searchPath name)) w).1 =
        .error (.filesystem (ws.searchPath name) e) := by
      rw [hmake, h]
      rfl
    rw [outcome_bind_error herror, hmake]
    rfl

end Simulation
end DumpWorkbench
