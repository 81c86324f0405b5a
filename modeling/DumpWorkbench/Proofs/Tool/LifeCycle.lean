import DumpWorkbench.Proofs.World.Actions
import Mathlib.Data.List.Chain

namespace DumpWorkbench

def Event.state? : Event → Option Tool.State
  | .entered _ s => some s
  | _ => none

def Event.told? : Event → Option Tool.State
  | .told _ s => some s
  | _ => none

def Event.isRemark : Event → Bool
  | .logged _ | .printed _ _ => true
  | _ => false

namespace Tool

open Simulation

/-- The steps of the life cycle. -/
inductive State.Next : State → State → Prop
  | start : Next .idle .running
  | complete : Next .running .completed
  | fail : Next .running .failed

def State.ofResult : Except Fault Output → State
  | .ok _ => .completed
  | .error _ => .failed

/-- No line is logged from where a tool is running to where its run ends. -/
def isSilent (running : Bool) : List Event → Bool
  | [] => true
  | .entered _ s :: es => isSilent (s = .running) es
  | .logged _ :: es => !running && isSilent running es
  | _ :: es => isSilent running es

/-- What can be done with a command. -/
inductive Command.Call where
  | arg (word : String)
  | args (words : List String)
  | progress (watched : Bool)
  | run
deriving DecidableEq, Repr

namespace Command

/-- Makes a call on a command; a run has a result. -/
def call (c : Command) : Call → Simulation (Option (Except Fault Output) × Command)
  | .arg word => return (none, c.arg word)
  | .args words => return (none, c.args words)
  | .progress watched => return (none, c.withProgress watched)
  | .run => do
    let (result, c) ← c.run
    return (some result, c)

/-- Makes calls on a command one after the other, and collects the results of its runs. -/
def calls (c : Command) : List Call → Simulation (List (Except Fault Output) × Command)
  | [] => return ([], c)
  | x :: xs => do
    let (result, c) ← c.call x
    let (results, c) ← c.calls xs
    return (result.toList ++ results, c)

def watches (watched : Bool) : List Call → List Bool
  | [] => []
  | .run :: xs => watched :: watches watched xs
  | .progress watched :: xs => watches watched xs
  | _ :: xs => watches watched xs

end Command

variable {tool : String} {runs runs' : List (Except Fault Output × Bool)} {es es' : List Event}
  {w w' w'' : World} {c : Command}

/-- The second world is the first with some remarks more. -/
def Remarked (w w' : World) : Prop :=
  ∃ es, w'.events = w.events ++ es ∧ ∀ e ∈ es, e.isRemark = true

theorem Remarked.refl (w : World) : Remarked w w :=
  ⟨[], (List.append_nil _).symm, List.forall_mem_nil _⟩

theorem Remarked.trans (h : Remarked w w') (h' : Remarked w' w'') : Remarked w w'' := by
  obtain ⟨es, hes, hremarks⟩ := h
  obtain ⟨es', hes', hremarks'⟩ := h'
  refine ⟨es ++ es', ?_, List.forall_mem_append.2 ⟨hremarks, hremarks'⟩⟩
  rw [hes', hes, List.append_assoc]

theorem Remarked.record (w : World) {e : Event} (he : e.isRemark = true) :
    Remarked w (w.record e) :=
  ⟨[e], rfl, by simpa using he⟩

theorem remarked_log (w : World) (e : Log.Entry) : Remarked w (w.log e) := by
  have hlogged := Remarked.record w (e := .logged e) rfl
  unfold World.log
  dsimp only
  split
  · exact hlogged
  · split
    · have hpending (pending : String) :
          Remarked w { w.record (.logged e) with pending := pending } := hlogged
      split
      · exact (hpending _).trans (.record _ rfl)
      · exact hpending _
    · exact hlogged

theorem remarked_logEnd (tool : String) (o : Output) (w : World) :
    Remarked w ((logEnd tool o : Simulation Unit) w).2 :=
  Simulation.keeps_logEnd (R := Remarked) (fun _ _ _ => Remarked.trans) Remarked.refl
    (fun e w => remarked_log w e) tool o w

/-- A state is entered, and who asked for it is told so at once. -/
def entrance (tool : String) (watched : Bool) (s : State) : List Event :=
  .entered tool s :: if watched then [.told tool s] else []

theorem entering_events (c : Command) (s : State) (w : World) :
    (entering c s w).events = w.events ++ entrance c.tool c.watched s := by
  obtain ⟨tool, program, arguments, state, watched⟩ := c
  cases watched with
  | false => rfl
  | true => exact List.append_assoc _ _ _

/-- The events of runs with these results, watched or not: right after a tool began to run it is
launched, and right after that its run has ended. Before and after a run there may be remarks. -/
inductive Lived (tool : String) : List (Except Fault Output × Bool) → List Event → Prop
  | ended {es : List Event} (h : ∀ e ∈ es, e.isRemark = true) : Lived tool [] es
  | next {before es : List Event} {result : Except Fault Output} {watched : Bool}
      {runs : List (Except Fault Output × Bool)} (h : ∀ e ∈ before, e.isRemark = true)
      (words : List String) (later : Lived tool runs es) :
      Lived tool ((result, watched) :: runs) (before ++ (entrance tool watched .running ++
        .launched words :: (entrance tool watched (.ofResult result) ++ es)))

theorem Lived.after (h : Lived tool runs es) (hremarks : ∀ e ∈ es', e.isRemark = true) :
    Lived tool runs (es' ++ es) := by
  cases h with
  | ended h => exact .ended (List.forall_mem_append.2 ⟨hremarks, h⟩)
  | next h words later =>
    rw [← List.append_assoc]
    exact .next (List.forall_mem_append.2 ⟨hremarks, h⟩) words later

theorem Lived.append (h : Lived tool runs es) (h' : Lived tool runs' es') :
    Lived tool (runs ++ runs') (es ++ es') := by
  induction h with
  | ended h => exact h'.after h
  | next h words later ih => simpa using Lived.next h words ih

theorem states_of_remarks (h : ∀ e ∈ es, e.isRemark = true) : es.filterMap Event.state? = [] := by
  refine List.filterMap_eq_nil_iff.2 fun e he => ?_
  have hremark := h e he
  cases e <;> first | rfl | cases hremark

theorem told_of_remarks (h : ∀ e ∈ es, e.isRemark = true) : es.filterMap Event.told? = [] := by
  refine List.filterMap_eq_nil_iff.2 fun e he => ?_
  have hremark := h e he
  cases e <;> first | rfl | cases hremark

theorem isSilent_remarks (h : ∀ e ∈ es', e.isRemark = true) :
    isSilent false (es' ++ es) = isSilent false es := by
  induction es' with
  | nil => rfl
  | cons e es' ih =>
    obtain ⟨he, hes'⟩ := List.forall_mem_cons.1 h
    cases e with
    | launched _ | entered _ _ | told _ _ => cases he
    | printed _ _ | logged _ => exact ih hes'

theorem Lived.states (h : Lived tool runs es) :
    es.filterMap Event.state? = (runs.map Prod.fst).flatMap fun r => [.running, .ofResult r] := by
  induction h with
  | ended h => exact states_of_remarks h
  | @next before es result watched runs h words later ih =>
    rw [List.filterMap_append, states_of_remarks h, List.map_cons, List.flatMap_cons, ← ih]
    cases watched <;> rfl

theorem Lived.told (h : Lived tool runs es) : es.filterMap Event.told? =
    runs.flatMap fun r => if r.2 then [.running, .ofResult r.1] else [] := by
  induction h with
  | ended h => exact told_of_remarks h
  | @next before es result watched runs h words later ih =>
    rw [List.filterMap_append, told_of_remarks h, List.flatMap_cons, ← ih]
    cases watched <;> rfl

theorem Lived.isSilent (h : Lived tool runs es) : isSilent false es = true := by
  induction h with
  | @ended es h =>
    rw [← List.append_nil es, isSilent_remarks h]
    rfl
  | @next before es result watched runs h words later ih =>
    rw [isSilent_remarks h]
    cases result <;> cases watched <;> exact ih

theorem run_lived (c : Command) (w : World) :
    let ended := (c.run : Simulation _) w
    (∃ es, ended.2.events = w.events ++ es ∧ Lived c.tool [(ended.1.1, c.watched)] es) ∧
      ended.1.2 = { c with state := .ofResult ended.1.1 } ∧
      ∀ e, ended.1.1 = .error e → ∃ cause, e = .launch c.tool c.program.text cause := by
  intro ended
  obtain ⟨before, hbefore, hremarks⟩ :=
    remarked_log w ⟨.info, logTarget, s!"Running {c.tool}: {c.rendered}"⟩
  have hlaunch : ((starting c w).launch c.words).2.events =
      w.events ++ before ++ entrance c.tool c.watched .running ++ [.launched c.words] := by
    rw [← hbefore, ← entering_events]
    rfl
  have hended : ended = finish { c with state := .running } ((starting c w).launch c.words).1
      ((starting c w).launch c.words).2 := run_eq c w
  clear_value ended
  generalize (starting c w).launch c.words = l at hlaunch hended
  obtain ⟨result, left⟩ := l
  cases result with
  | error e =>
    rw [finish_error] at hended
    subst hended
    refine ⟨⟨_, ?_, .next hremarks c.words (.ended (List.forall_mem_nil _))⟩, rfl, ?_⟩
    · rw [entering_events, hlaunch]
      simp [State.ofResult, received]
    · intro e' he'
      obtain rfl := Except.error.inj he'
      exact ⟨e, rfl⟩
  | ok x =>
    rw [finish_ok] at hended
    subst hended
    obtain ⟨after, hafter, hremarks'⟩ := remarked_logEnd c.tool ⟨x.stdout, x.stderr, x.code, ⟨0⟩⟩
      (entering { c with state := .running } .completed left)
    refine ⟨⟨_, ?_, .next hremarks c.words (.ended hremarks')⟩, rfl, ?_⟩
    · rw [hafter, entering_events, hlaunch]
      simp [State.ofResult]
    · intro e' he'
      cases he'

/-- What calls on a command do: the events of its runs, and the state that the last one left. -/
structure Went (c : Command) (w : World) (runs : List (Except Fault Output × Bool)) (c' : Command)
    (w' : World) : Prop where
  lived : ∃ es, w'.events = w.events ++ es ∧ Lived c.tool runs es
  tool : c'.tool = c.tool
  program : c'.program = c.program
  state : c'.state = ((runs.map Prod.fst).map State.ofResult).getLastD c.state
  faults : ∀ e, .error e ∈ runs.map Prod.fst → ∃ cause, e = .launch c.tool c.program.text cause

theorem Went.built {c' : Command} (htool : c'.tool = c.tool) (hprogram : c'.program = c.program)
    (hstate : c'.state = c.state) : Went c w [] c' w where
  lived := ⟨[], (List.append_nil _).symm, .ended (List.forall_mem_nil _)⟩
  tool := htool
  program := hprogram
  state := hstate
  faults _ he := absurd he List.not_mem_nil

theorem Went.trans {c' c'' : Command} (h : Went c w runs c' w') (h' : Went c' w' runs' c'' w'') :
    Went c w (runs ++ runs') c'' w'' := by
  obtain ⟨es, hes, hlived⟩ := h.lived
  obtain ⟨es', hes', hlived'⟩ := h'.lived
  rw [h.tool] at hlived'
  refine ⟨⟨es ++ es', ?_, hlived.append hlived'⟩, h'.tool.trans h.tool,
    h'.program.trans h.program, ?_, fun e he => ?_⟩
  · rw [hes', hes, List.append_assoc]
  · rw [h'.state, h.state, List.map_append, List.map_append, List.getLastD_eq_getLast?,
      List.getLastD_eq_getLast?, List.getLastD_eq_getLast?, List.getLast?_append, Option.getD_or]
  · rw [List.map_append] at he
    obtain he | he := List.mem_append.1 he
    · exact h.faults e he
    · rw [← h.tool, ← h.program]
      exact h'.faults e he

theorem went_call (c : Command) (x : Command.Call) (w : World) :
    Went c w ((c.call x w).1.1.toList.map (·, c.watched)) (c.call x w).1.2 (c.call x w).2 := by
  cases x with
  | arg word => exact .built rfl rfl rfl
  | args words => exact .built rfl rfl rfl
  | progress watched => exact .built rfl rfl rfl
  | run =>
    obtain ⟨hlived, hleft, hfaults⟩ := run_lived c w
    have hcall : c.call .run w = ((some ((c.run : Simulation _) w).1.1,
      ((c.run : Simulation _) w).1.2), ((c.run : Simulation _) w).2) := rfl
    rw [hcall]
    refine ⟨hlived, ?_, ?_, ?_, fun e he => hfaults e (List.mem_singleton.1 he).symm⟩
    all_goals
      dsimp only
      rw [hleft]
    rfl

/-- A run is watched if that was asked for last. -/
theorem zip_watches (c : Command) (x : Command.Call) (xs : List Command.Call)
    (results : List (Except Fault Output)) (w : World) :
    ((c.call x w).1.1.toList ++ results).zip (Command.watches c.watched (x :: xs)) =
      (c.call x w).1.1.toList.map (·, c.watched) ++
        results.zip (Command.watches (c.call x w).1.2.watched xs) := by
  cases x with
  | arg word => rfl
  | args words => rfl
  | progress watched => rfl
  | run =>
    obtain ⟨-, hleft, -⟩ := run_lived c w
    have hwatched : ((c.run : Simulation _) w).1.2.watched = c.watched := by rw [hleft]
    change _ = _ ++ results.zip (Command.watches ((c.run : Simulation _) w).1.2.watched xs)
    rw [hwatched]
    rfl

theorem went_calls (c : Command) (xs : List Command.Call) (w : World) :
    Went c w ((c.calls xs w).1.1.zip (Command.watches c.watched xs)) (c.calls xs w).1.2
      (c.calls xs w).2 := by
  induction xs generalizing c w with
  | nil => exact .built rfl rfl rfl
  | cons x xs ih =>
    have hboth := (went_call c x w).trans (ih (c.call x w).1.2 (c.call x w).2)
    rw [← zip_watches] at hboth
    exact hboth

theorem length_calls (c : Command) (xs : List Command.Call) (w : World) :
    (c.calls xs w).1.1.length = xs.count .run := by
  induction xs generalizing c w with
  | nil => rfl
  | cons x xs ih =>
    have hcalls : (c.calls (x :: xs) w).1.1 = (c.call x w).1.1.toList ++
        ((c.call x w).1.2.calls xs (c.call x w).2).1.1 := rfl
    rw [hcalls, List.length_append, ih, List.count_cons, Nat.add_comm]
    cases x <;> rfl

theorem length_watches (watched : Bool) (xs : List Command.Call) :
    (Command.watches watched xs).length = xs.count .run := by
  induction xs generalizing watched with
  | nil => rfl
  | cons x xs ih =>
    rw [List.count_cons]
    cases x <;> simp [Command.watches, ih]

theorem getLastD_states (results : List (Except Fault Output)) (s : State) :
    (results.flatMap fun r => [.running, .ofResult r]).getLastD s =
      (results.map State.ofResult).getLastD s := by
  induction results generalizing s with
  | nil => rfl
  | cons r results ih =>
    rw [List.flatMap_cons, List.map_cons, List.getLastD_cons, ← ih, List.cons_append,
      List.getLastD_cons, List.cons_append, List.getLastD_cons, List.nil_append]

theorem isChain_states_iff (results : List (Except Fault Output)) :
    List.IsChain State.Next (.idle :: results.flatMap fun r => [.running, .ofResult r]) ↔
      results.length ≤ 1 := by
  have hend (r : Except Fault Output) : State.Next .running (.ofResult r) := by
    cases r with
    | ok _ => exact .complete
    | error _ => exact .fail
  match results with
  | [] => simp
  | [r] => simp [State.Next.start, hend r]
  | r :: r' :: results =>
    have hback : ¬ State.Next (.ofResult r) .running := by cases r <;> rintro ⟨⟩
    simp [hback]

/-- A run of a command takes it to where it is running and from there to one of the two ends: to
failure exactly if the result is a fault, which then is one of the launch. Who asked for it is told
of these states, and nothing is logged in between. But a run does so whatever state the command is
in, and the states of a command keep to the life cycle exactly if it is run at most once. -/
theorem lifeCycle_of_calls (tool : String) (program : Path) (xs : List Command.Call) (w : World) :
    let ended := (Command.new tool program).calls xs w
    let results := ended.1.1
    ∃ events, ended.2.events = w.events ++ events ∧
      let states := events.filterMap Event.state?
      results.length = xs.count .run ∧
      states = results.flatMap (fun r => [.running, .ofResult r]) ∧
      events.filterMap Event.told? = (results.zip (Command.watches false xs)).flatMap
        (fun (r, watched) => if watched then [.running, .ofResult r] else []) ∧
      ended.1.2.state = states.getLastD .idle ∧
      (∀ e, .error e ∈ results → ∃ cause, e = .launch tool program.text cause) ∧
      isSilent false events = true ∧
      (List.IsChain State.Next (.idle :: states) ↔ xs.count .run ≤ 1) := by
  intro ended results
  have hwent := went_calls (Command.new tool program) xs w
  obtain ⟨events, hevents, hlived⟩ := hwent.lived
  have hlength : results.length = xs.count .run := length_calls _ xs w
  have hresults : (results.zip (Command.watches false xs)).map Prod.fst = results :=
    List.map_fst_zip (hlength.trans (length_watches false xs).symm).le
  have hstates : events.filterMap Event.state? = results.flatMap fun r => [.running, .ofResult r] :=
    hlived.states.trans (congrArg (List.flatMap _) hresults)
  refine ⟨events, hevents, hlength, hstates, hlived.told, ?_, fun e he => ?_, hlived.isSilent, ?_⟩
  · rw [hstates, getLastD_states]
    exact hwent.state.trans (congrArg (fun rs => (rs.map State.ofResult).getLastD .idle) hresults)
  · exact hwent.faults e (hresults.symm ▸ he)
  · rw [hstates, isChain_states_iff]
    exact hlength ▸ Iff.rfl

/-- A command that is run twice leaves the end of its first run. -/
theorem lifeCycle_left_by_second_run :
    let ended := (Command.new "radare2" ⟨"r2"⟩).calls [.run, .run] World.bare
    let states := ended.2.events.filterMap Event.state?
    states = [.running, .completed, .running, .completed] ∧
      ¬ List.IsChain State.Next (.idle :: states) := by
  intro ended states
  have hstates : states = [.running, .completed, .running, .completed] := by decide +kernel
  refine ⟨hstates, ?_⟩
  rw [hstates]
  simp only [List.isChain_cons_cons]
  rintro ⟨-, -, ⟨⟩, -⟩

end Tool
end DumpWorkbench
