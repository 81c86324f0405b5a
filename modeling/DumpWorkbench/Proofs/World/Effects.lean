import DumpWorkbench.Proofs.World.Actions
import Mathlib.Logic.Relation

namespace DumpWorkbench

open Relation (ReflTransGen)

/-- The second world is the first one with its tree changed in steps, and with some printed. -/
structure World.Alters (R : Tree → Tree → Prop) (w w' : World) : Prop where
  tree : ReflTransGen R w.tree w'.tree
  rest : ∃ events, (∀ e ∈ events, e.launch? = none) ∧
    w' = { w with tree := w'.tree, events := w.events ++ events }

namespace World.Alters

variable {R R' : Tree → Tree → Prop} {w w' w'' : World} {t : Tree}

theorem refl (R : Tree → Tree → Prop) (w : World) : w.Alters R w := by
  refine ⟨.refl, [], fun _ he => absurd he List.not_mem_nil, ?_⟩
  rw [List.append_nil]

theorem trans (h : w.Alters R w') (h' : w'.Alters R w'') : w.Alters R w'' := by
  obtain ⟨htree, events, hevents, hw'⟩ := h
  obtain ⟨htree', events', hevents', hw''⟩ := h'
  refine ⟨htree.trans htree', events ++ events', fun e he => ?_, ?_⟩
  · obtain he | he := List.mem_append.1 he
    · exact hevents e he
    · exact hevents' e he
  · rw [hw'', hw', List.append_assoc]

theorem change (w : World) (h : ReflTransGen R w.tree t) : w.Alters R { w with tree := t } := by
  refine ⟨h, [], fun _ he => absurd he List.not_mem_nil, ?_⟩
  rw [List.append_nil]

theorem print (R : Tree → Tree → Prop) (w : World) (channel : Channel) (text : String) :
    w.Alters R (w.record (.printed channel text)) :=
  ⟨.refl, [.printed channel text], fun e he => by rw [List.mem_singleton.1 he]; rfl, rfl⟩

theorem leaves (h : w.Alters R w') : w.Leaves [] w'.tree w' := by
  obtain ⟨-, events, hevents, hw'⟩ := h
  have hnone : events.filterMap Event.launch? = [] := List.filterMap_eq_nil_iff.2 hevents
  rw [hw']
  refine ⟨?_, rfl, rfl, rfl, rfl⟩
  change (w.events ++ events).filterMap Event.launch? = _
  rw [List.filterMap_append, hnone]
  rfl

theorem directory (h : w.Alters R w') : w'.directory = w.directory := h.leaves.directory

theorem time (h : w.Alters R w') : w'.time = w.time := by
  obtain ⟨-, events, -, hw'⟩ := h
  rw [hw']

theorem sink (h : w.Alters R w') : w'.sink = w.sink := by
  obtain ⟨-, events, -, hw'⟩ := h
  rw [hw']

theorem pending (h : w.Alters R w') : w'.pending = w.pending := by
  obtain ⟨-, events, -, hw'⟩ := h
  rw [hw']

end World.Alters

namespace Simulation

variable {α β : Type}

theorem bind_apply (x : Simulation α) (f : α → Simulation β) (w : World) :
    (x >>= f) w = f (x w).1 (x w).2 := rfl

theorem bind_lift_apply {ε : Type} (x : Simulation α) (f : α → ExceptT ε Simulation β) (w : World) :
    (liftM x >>= f : ExceptT ε Simulation β) w = f (x w).1 (x w).2 := rfl

theorem bind_of_ok {ε : Type} {x : ExceptT ε Simulation α} {w : World} {a : α}
    (h : (x w).1 = .ok a) (f : α → ExceptT ε Simulation β) :
    (x >>= f : ExceptT ε Simulation β) w = f a (x w).2 := by
  have hbind : (x >>= f : ExceptT ε Simulation β) w =
      (ExceptT.bindCont f (x w).1 : Simulation (Except ε β)) (x w).2 := rfl
  rw [hbind, h]
  rfl

theorem bind_of_error {ε : Type} {x : ExceptT ε Simulation α} {w : World} {e : ε}
    (h : (x w).1 = .error e) (f : α → ExceptT ε Simulation β) :
    (x >>= f : ExceptT ε Simulation β) w = (.error e, (x w).2) := by
  have hbind : (x >>= f : ExceptT ε Simulation β) w =
      (ExceptT.bindCont f (x w).1 : Simulation (Except ε β)) (x w).2 := rfl
  rw [hbind, h]
  rfl

theorem filterM_apply {q : α → Simulation Bool} {f : α → Bool} {w : World}
    (h : ∀ a, q a w = (f a, w)) (as : List α) : as.filterM q w = (as.filter f, w) := by
  have haux (as acc : List α) :
      (as.filterAuxM q acc : Simulation (List α)) w = ((as.filter f).reverse ++ acc, w) := by
    induction as generalizing acc with
    | nil => rfl
    | cons a as ih =>
      unfold List.filterAuxM
      rw [bind_apply, h]
      dsimp only
      rw [ih, List.filter_cons]
      cases f a <;> simp
  unfold List.filterM
  rw [bind_apply, haux, List.append_nil]
  exact congrArg (·, w) (List.reverse_reverse _)

theorem run_apply (x : Action α) (w : World) : x.run w = outcome x w := rfl

theorem onTree_of_ok {f : Tree → Location → Except IoFault Tree} {w : World} {t : Tree}
    (h : f w.tree w.directory = .ok t) :
    w.onTree (Tree.Calls.change f) = (.ok (), { w with tree := t }) := by
  unfold World.onTree Tree.Calls.change
  rw [h]

theorem onTree_of_error {f : Tree → Location → Except IoFault Tree} {w : World} {e : IoFault}
    (h : f w.tree w.directory = .error e) : w.onTree (Tree.Calls.change f) = (.error e, w) := by
  unfold World.onTree Tree.Calls.change
  rw [h]

/-- A call that leaves the world as it is. -/
def Looks (x : Simulation α) : Prop := ∀ w, (x w).2 = w

theorem looks_pure (a : α) : Looks (pure a) := fun _ => rfl

theorem Looks.bind {x : Simulation α} {f : α → Simulation β} (hx : Looks x)
    (hf : ∀ a, Looks (f a)) : Looks (x >>= f) :=
  Keeps.bind (R := fun w w' => w' = w) (fun _ _ _ h h' => h'.trans h) hx hf

def Idle (x : Action α) : Prop := ∀ w, (outcome x w).2 = w

theorem idle_pure (a : α) : Idle (pure a : Action α) := fun _ => rfl

theorem idle_throw (e : Fault) : Idle (throw e : Action α) := fun _ => rfl

theorem idle_except (r : Except Fault α) : Idle (liftM r : Action α) := by
  intro w
  rw [outcome_except]

theorem Looks.idle {x : Simulation α} (h : Looks x) : Idle (liftM x : Action α) := h

theorem Idle.bind {x : Action α} {f : α → Action β} (hx : Idle x) (hf : ∀ a, Idle (f a)) :
    Idle (x >>= f) :=
  Keeps.bind_action (R := fun w w' => w' = w) (fun _ _ _ h h' => h'.trans h) hx hf

theorem outcome_bind_eq_ok {x : Action α} {f : α → Action β} {w : World} {b : β}
    (h : (outcome (x >>= f) w).1 = .ok b) :
    ∃ a, (outcome x w).1 = .ok a ∧ (outcome (f a) (outcome x w).2).1 = .ok b := by
  cases hx : (outcome x w).1 with
  | error e =>
    rw [outcome_bind_error hx] at h
    cases h
  | ok a =>
    rw [outcome_bind_ok hx] at h
    exact ⟨a, rfl, h⟩

theorem outcome_logged_of_ok {note : Fault → String} {x : Action α} {w w' : World} {a : α}
    (h : outcome (Run.logged note x) w = (.ok a, w')) : outcome x w = (.ok a, w') := by
  unfold Run.logged at h
  cases hx : (outcome x w).1 with
  | ok b =>
    rw [outcome_tryCatch_ok hx] at h
    rw [← h, ← hx]
  | error e =>
    rw [outcome_tryCatch_error hx, outcome_bind_lift] at h
    cases congrArg Prod.fst h

end Simulation
end DumpWorkbench
