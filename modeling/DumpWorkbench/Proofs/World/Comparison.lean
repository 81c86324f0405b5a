import DumpWorkbench.Proofs.Outcome
import DumpWorkbench.Proofs.World.Actions

namespace DumpWorkbench

/-- How closely runs are compared: by what programs write to their standard output, whatever else is
to be told of their end, or by all that is done. -/
inductive View where
  | byOutput
  | byDeeds
deriving DecidableEq, Repr

namespace View

/-- What is seen of the end of a program. -/
def exit : View → Exit → Exit
  | .byOutput, x => ⟨x.stdout, [], none⟩
  | .byDeeds, x => x

/-- The events that are seen. Log lines tell how a program has ended. -/
def sees : View → Event → Bool
  | _, .printed _ _ => false
  | .byOutput, .logged _ => false
  | _, _ => true

def record : View → Record → Record
  | .byOutput, r => { r with elapsed := .zero, exitCode := none }
  | .byDeeds, r => { r with elapsed := .zero }

def report (v : View) (r : Report) : Report :=
  { r with started := .epoch, records := r.records.map v.record }

def output (v : View) (o : Tool.Output) : Exit := v.exit ⟨o.stdout, o.stderr, o.exitCode⟩

variable {v : View}

theorem stdout_of_exit {x y : Exit} (h : v.exit x = v.exit y) : x.stdout = y.stdout := by
  have hseen (x : Exit) : (v.exit x).stdout = x.stdout := by cases v <;> rfl
  rw [← hseen x, h, hseen]

theorem record_layout (base : Path) (d d' : Duration) :
    v.record (.layout base d) = v.record (.layout base d') := by
  cases v <;> rfl

theorem record_ofTool {o o' : Tool.Output} (h : v.output o = v.output o') (op : Operation)
    (artifact : Option Path) :
    v.record (.ofTool op o artifact) = v.record (.ofTool op o' artifact) := by
  have hstdout : o.stdout = o'.stdout := stdout_of_exit h
  cases v with
  | byOutput => simp [record, Record.ofTool, hstdout]
  | byDeeds =>
    have hcode : o.exitCode = o'.exitCode := congrArg Exit.code h
    simp [record, Record.ofTool, hstdout, hcode]

theorem record_withSections {r r' : Record} (h : v.record r = v.record r') (n : Nat) :
    v.record (r.withSections n) = v.record (r'.withSections n) := by
  have hcommute (x : Record) : v.record (x.withSections n) = (v.record x).withSections n := by
    cases v <;> rfl
  rw [hcommute, hcommute, h]

end View

/-- Worlds that look alike, and in which programs look alike. -/
structure World.Alike (v : View) (w w' : World) : Prop where
  tree : w.tree = w'.tree
  directory : w.directory = w'.directory
  environment : w.environment = w'.environment
  exits : ∀ environment directory words tree,
    (w.launcher environment directory words tree).1.map v.exit =
      (w'.launcher environment directory words tree).1.map v.exit
  leaves : ∀ environment directory words tree,
    (w.launcher environment directory words tree).2 =
      (w'.launcher environment directory words tree).2
  events : w.events.filter v.sees = w'.events.filter v.sees

namespace World.Alike

variable {v : View} {w w' w'' : World} {e : Event}

theorem refl (v : View) (w : World) : w.Alike v w :=
  ⟨rfl, rfl, rfl, fun _ _ _ _ => rfl, fun _ _ _ _ => rfl, rfl⟩

theorem symm (h : w.Alike v w') : w'.Alike v w :=
  ⟨h.tree.symm, h.directory.symm, h.environment.symm, fun _ _ _ _ => (h.exits _ _ _ _).symm,
    fun _ _ _ _ => (h.leaves _ _ _ _).symm, h.events.symm⟩

theorem trans (h : w.Alike v w') (h' : w'.Alike v w'') : w.Alike v w'' :=
  ⟨h.tree.trans h'.tree, h.directory.trans h'.directory, h.environment.trans h'.environment,
    fun _ _ _ _ => (h.exits _ _ _ _).trans (h'.exits _ _ _ _),
    fun _ _ _ _ => (h.leaves _ _ _ _).trans (h'.leaves _ _ _ _), h.events.trans h'.events⟩

theorem launches (h : w.Alike v w') : w.launches = w'.launches := by
  have hseen (events : List Event) :
      (events.filter v.sees).filterMap Event.launch? = events.filterMap Event.launch? := by
    induction events with
    | nil => rfl
    | cons e events ih =>
      cases e <;> cases v <;> simp only [List.filter_cons, View.sees, List.filterMap_cons,
        Event.launch?, ih, if_true, if_false, Bool.false_eq_true]
  unfold World.launches
  rw [← hseen w.events, h.events, hseen]

theorem record (h : w.Alike v w') (e : Event) : (w.record e).Alike v (w'.record e) := by
  refine ⟨h.tree, h.directory, h.environment, h.exits, h.leaves, ?_⟩
  change (w.events ++ [e]).filter v.sees = (w'.events ++ [e]).filter v.sees
  rw [List.filter_append, List.filter_append, h.events]

theorem entering (h : w.Alike v w') (c : Tool.Command) (s : Tool.State) :
    (Simulation.entering c s w).Alike v (Simulation.entering c s w') := by
  unfold Simulation.entering
  split
  · exact (h.record _).record _
  · exact h.record _

/-- What is not seen may happen in one of the worlds only. -/
theorem unseen (w : World) (he : v.sees e = false) : w.Alike v (w.record e) := by
  refine ⟨rfl, rfl, rfl, fun _ _ _ _ => rfl, fun _ _ _ _ => rfl, ?_⟩
  change _ = (w.events ++ [e]).filter v.sees
  rw [List.filter_append, List.filter_cons_of_neg (by simp [he]), List.filter_nil, List.append_nil]

theorem withTree (h : w.Alike v w') (t : Tree) :
    World.Alike v { w with tree := t } { w' with tree := t } :=
  ⟨rfl, h.directory, h.environment, h.exits, h.leaves, h.events⟩

end World.Alike

namespace Simulation

variable {α β γ δ : Type} {v : View} {f : α → γ} {g : β → δ}

/-- Calls that, made in worlds that look alike, have results of which the same is seen, and leave
worlds that look alike. -/
def Matches (v : View) (f : α → γ) (x y : Simulation α) : Prop :=
  ∀ w w' : World, w.Alike v w' → f (x w).1 = f (y w').1 ∧ (x w).2.Alike v (y w').2

/-- A call that changes nothing of what is seen. -/
def Unseen (v : View) (x : Simulation α) : Prop := ∀ w : World, w.Alike v (x w).2

theorem matches_pure {a b : α} (h : f a = f b) : Matches v f (pure a) (pure b) :=
  fun _ _ hw => ⟨h, hw⟩

theorem Matches.bind {x y : Simulation α} {j k : α → Simulation β} (hx : Matches v f x y)
    (h : ∀ a b, f a = f b → Matches v g (j a) (k b)) : Matches v g (x >>= j) (y >>= k) := by
  intro w w' hw
  obtain ⟨hresult, hleft⟩ := hx w w' hw
  exact h _ _ hresult _ _ hleft

theorem Unseen.bind {x : Simulation α} {j : α → Simulation β} (hx : Unseen v x)
    (hj : ∀ a, Unseen v (j a)) : Unseen v (x >>= j) :=
  Keeps.bind (R := World.Alike v) (fun _ _ _ => World.Alike.trans) hx hj

theorem unseen_forM {j : α → Simulation PUnit} (hj : ∀ a, Unseen v (j a)) (as : List α) :
    Unseen v (as.forM j) :=
  keeps_forM (R := World.Alike v) (fun _ _ _ => World.Alike.trans) (World.Alike.refl v) hj as

theorem Unseen.matches {x y : Simulation PUnit} (hx : Unseen v x) (hy : Unseen v y) :
    Matches v (fun _ => ()) x y :=
  fun w w' hw => ⟨rfl, (hx w).symm.trans (hw.trans (hy w'))⟩

theorem unseen_notify (c : Console) (n : Notice) : Unseen v (Run.notify c n : Simulation Unit) := by
  have hlook : Unseen v (Host.now : Simulation Timestamp) := fun w => .refl v w
  exact hlook.bind fun _ => unseen_forM (fun _ w => .unseen w (by cases v <;> rfl)) _

theorem matches_notify (c c' : Console) (n n' : Notice) :
    Matches v (fun _ => ()) (Run.notify c n : Simulation Unit) (Run.notify c' n') :=
  (unseen_notify c n).matches (unseen_notify c' n')

theorem alike_log (v : View) (w : World) (e : Log.Entry) :
    (w.record (.logged e)).Alike v (w.log e) := by
  have hpending (w : World) (line : String) :
      w.Alike v { w with pending := w.pending ++ line } :=
    ⟨rfl, rfl, rfl, fun _ _ _ _ => rfl, fun _ _ _ _ => rfl, rfl⟩
  unfold World.log
  dsimp only
  split
  · exact .refl v _
  · split
    · split
      · exact (hpending _ _).trans (.unseen _ (by cases v <;> rfl))
      · exact hpending _ _
    · exact .refl v _

theorem matches_log (e : Log.Entry) :
    Matches v (fun _ => ()) (Host.log e : Simulation Unit) (Host.log e) :=
  fun w w' hw => ⟨rfl, (alike_log v w e).symm.trans ((hw.record _).trans (alike_log v w' e))⟩

theorem unseen_log (e : Log.Entry) : Unseen .byOutput (Host.log e : Simulation Unit) :=
  fun w => (World.Alike.unseen w rfl).trans (alike_log .byOutput w e)

theorem matches_forM {j k : β → Simulation PUnit} (h : ∀ b, Matches v (fun _ => ()) (j b) (k b))
    (bs : List β) : Matches v (fun _ => ()) (bs.forM j) (bs.forM k) := by
  induction bs with
  | nil => exact matches_pure rfl
  | cons b bs ih => exact (h b).bind fun _ _ _ => ih

theorem matches_onTree (calls : Tree.Calls α) :
    Matches v id (fun w => w.onTree calls) (fun w => w.onTree calls) := by
  intro w w' hw
  have hcalls : calls w.directory w.tree = calls w'.directory w'.tree := by
    rw [hw.tree, hw.directory]
  refine ⟨show (calls w.directory w.tree).1 = _ from congrArg Prod.fst hcalls, ?_⟩
  change World.Alike v { w with tree := (calls w.directory w.tree).2 }
    { w' with tree := (calls w'.directory w'.tree).2 }
  rw [hcalls]
  exact hw.withTree _

theorem unseen_logEnd (tool : String) (o : Tool.Output) :
    Unseen .byOutput (Tool.logEnd tool o : Simulation Unit) :=
  keeps_logEnd (R := World.Alike .byOutput) (fun _ _ _ => World.Alike.trans)
    (World.Alike.refl .byOutput) unseen_log tool o

theorem matches_logEnd_self (tool : String) (o : Tool.Output) :
    Matches v (fun _ => ()) (Tool.logEnd tool o : Simulation Unit) (Tool.logEnd tool o) := by
  have hstderr : Matches v (fun _ => ()) (if !o.stderr.isEmpty then
      Host.log ⟨.debug, Tool.logTarget, Tool.stderrNote tool o.stderr⟩
      else pure () : Simulation Unit) (if !o.stderr.isEmpty then
      Host.log ⟨.debug, Tool.logTarget, Tool.stderrNote tool o.stderr⟩
      else pure ()) := by
    split
    · exact matches_log _
    · exact matches_pure rfl
  unfold Tool.logEnd
  dsimp only
  split
  · exact (matches_log _).bind fun _ _ _ => hstderr
  · exact hstderr

theorem matches_logEnd {o o' : Tool.Output} (h : v.output o = v.output o') (tool : String) :
    Matches v (fun _ => ()) (Tool.logEnd tool o : Simulation Unit) (Tool.logEnd tool o') := by
  cases v with
  | byOutput => exact (unseen_logEnd tool o).matches (unseen_logEnd tool o')
  | byDeeds =>
    have hcode : o.exitCode = o'.exitCode := congrArg Exit.code h
    have hstderr : o.stderr = o'.stderr := congrArg Exit.stderr h
    have hend : (Tool.logEnd tool o : Simulation Unit) = Tool.logEnd tool o' := by
      unfold Tool.logEnd Tool.Output.success
      rw [hcode, hstderr]
    rw [hend]
    exact matches_logEnd_self tool o'

theorem matches_enter (c : Tool.Command) (s : Tool.State) :
    Matches v id (c.enter s : Simulation Tool.Command) (c.enter s) :=
  fun w w' hw => by
    rw [enter_eq, enter_eq]
    exact ⟨rfl, hw.entering c s⟩

theorem matches_launch (words : List String) :
    Matches v (Except.map v.exit) (Host.launch words : Simulation (Except IoFault Exit))
      (Host.launch words) := by
  intro w w' hw
  have hend := hw.exits w.environment w.directory words w.tree
  have hleft := hw.leaves w.environment w.directory words w.tree
  have hfound : w'.launcher w.environment w.directory words w.tree =
      w'.launcher w'.environment w'.directory words w'.tree := by
    rw [hw.environment, hw.directory, hw.tree]
  rw [hfound] at hend hleft
  refine ⟨hend, ?_⟩
  change World.Alike v (World.record { w with
      tree := (w.launcher w.environment w.directory words w.tree).2 } (.launched words))
    (World.record { w' with
      tree := (w'.launcher w'.environment w'.directory words w'.tree).2 } (.launched words))
  rw [hleft]
  exact (hw.withTree _).record _

theorem matches_finish (c : Tool.Command) {r r' : Except IoFault Exit}
    (h : r.map v.exit = r'.map v.exit) :
    Matches v (fun ran => ran.1.map v.output) (finish c r) (finish c r') := by
  obtain ⟨e, rfl, rfl⟩ | ⟨x, y, rfl, rfl, hexit⟩ := map_eq_map.1 h
  · refine (matches_enter c .failed).bind fun _ _ hc => ?_
    obtain rfl := hc
    exact matches_pure rfl
  · have houtput : v.output ⟨x.stdout, x.stderr, x.code, ⟨0⟩⟩ =
        v.output ⟨y.stdout, y.stderr, y.code, ⟨0⟩⟩ := hexit
    refine (matches_enter c .completed).bind fun _ _ hc => ?_
    obtain rfl := hc
    exact (matches_logEnd houtput _).bind fun _ _ _ => matches_pure (congrArg Except.ok houtput)

theorem matches_run (c : Tool.Command) :
    Matches v (fun ran => ran.1.map v.output) (c.run : Simulation _) c.run := by
  have hrun : (c.run : Simulation _) = (do
      Host.log ⟨.info, Tool.logTarget, s!"Running {c.tool}: {c.rendered}"⟩
      let c ← c.enter .running
      let r ← Host.launch c.words
      finish c r) := rfl
  rw [hrun]
  refine (matches_log _).bind fun _ _ _ => (matches_enter c .running).bind fun _ _ hc => ?_
  obtain rfl := hc
  exact (matches_launch _).bind fun r r' h => matches_finish _ h

/-- Actions that, taken in worlds that look alike, end with the same fault or with results of which
the same is seen, and leave worlds that look alike. -/
def Agrees (v : View) (f : α → γ) (x y : Action α) : Prop :=
  ∀ w w' : World, w.Alike v w' →
    (outcome x w).1.map f = (outcome y w').1.map f ∧ (outcome x w).2.Alike v (outcome y w').2

theorem agrees_pure {a b : α} (h : f a = f b) : Agrees v f (pure a) (pure b) :=
  fun _ _ hw => ⟨congrArg Except.ok h, hw⟩

theorem agrees_throw (e : Fault) : Agrees v f (throw e : Action α) (throw e) :=
  fun _ _ hw => ⟨rfl, hw⟩

theorem agrees_except {a b : Except Fault α} (h : a.map f = b.map f) :
    Agrees v f (liftM a : Action α) (liftM b) := by
  intro w w' hw
  rw [outcome_except, outcome_except]
  exact ⟨h, hw⟩

theorem Matches.lift {x y : Simulation α} (h : Matches v f x y) :
    Agrees v f (liftM x : Action α) (liftM y) :=
  fun w w' hw => ⟨congrArg Except.ok (h w w' hw).1, (h w w' hw).2⟩

theorem Agrees.bind {x y : Action α} {j k : α → Action β} (hx : Agrees v f x y)
    (h : ∀ a b, f a = f b → Agrees v g (j a) (k b)) : Agrees v g (x >>= j) (y >>= k) := by
  intro w w' hw
  obtain ⟨hresult, hleft⟩ := hx w w' hw
  obtain ⟨e, hx, hy⟩ | ⟨a, b, hx, hy, hab⟩ := map_eq_map.1 hresult
  · rw [outcome_bind_error hx, outcome_bind_error hy]
    exact ⟨rfl, hleft⟩
  · rw [outcome_bind_ok hx, outcome_bind_ok hy]
    exact h a b hab _ _ hleft

theorem Agrees.bind_eq {x y : Action α} {j k : α → Action β} (hx : Agrees v id x y)
    (h : ∀ a, Agrees v g (j a) (k a)) : Agrees v g (x >>= j) (y >>= k) := by
  refine hx.bind fun a b hab => ?_
  obtain rfl : a = b := hab
  exact h a

theorem Agrees.logged {x y : Action α} (h : Agrees v f x y) (note : Fault → String) :
    Agrees v f (Run.logged note x) (Run.logged note y) := by
  intro w w' hw
  obtain ⟨hresult, hleft⟩ := h w w' hw
  unfold Run.logged
  obtain ⟨e, hx, hy⟩ | ⟨a, b, hx, hy, hab⟩ := map_eq_map.1 hresult
  · rw [outcome_tryCatch_error hx, outcome_tryCatch_error hy, outcome_bind_lift, outcome_bind_lift]
    exact ⟨rfl, (matches_log _ _ _ hleft).2⟩
  · rw [outcome_tryCatch_ok hx, outcome_tryCatch_ok hy]
    exact ⟨congrArg Except.ok hab, hleft⟩

theorem agrees_mapM {p q : β → Action α} (h : ∀ b, Agrees v f (p b) (q b)) (bs : List β) :
    Agrees v (List.map f) (bs.mapM p) (bs.mapM q) := by
  induction bs with
  | nil => exact agrees_pure rfl
  | cons b bs ih =>
    rw [List.mapM_cons, List.mapM_cons]
    refine (h b).bind fun a a' ha => ih.bind fun as as' has => agrees_pure ?_
    rw [List.map_cons, List.map_cons, ha, has]

theorem agrees_forM {p q : β → Action PUnit} (h : ∀ b, Agrees v (fun _ => ()) (p b) (q b))
    (bs : List β) : Agrees v (fun _ => ()) (bs.forM p) (bs.forM q) := by
  induction bs with
  | nil => exact agrees_pure rfl
  | cons b bs ih => exact (h b).bind fun _ _ _ => ih

theorem agrees_makeDirectory (p : Path) :
    Agrees v id (Workspace.makeDirectory p : Action Unit) (Workspace.makeDirectory p) := by
  unfold Workspace.makeDirectory
  refine (matches_onTree _).lift.bind_eq fun result => ?_
  cases result with
  | ok _ => exact agrees_pure rfl
  | error e => exact agrees_throw _

end Simulation
end DumpWorkbench
