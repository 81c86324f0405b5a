import DumpWorkbench.Proofs.Operation
import DumpWorkbench.Proofs.Run.Layout
import DumpWorkbench.Proofs.Run.MapExtraction
import DumpWorkbench.Proofs.Run.Sift

namespace DumpWorkbench

open Simulation

namespace Run

variable {r : Run} {base : Path} {ws : Workspace} {name : String} {op : Operation}
  {ops done : List Operation} {record : Record} {records : List Record} {w w' left : World}
  {e : Fault}

def command? (r : Run) (base : Path) (name : String) : Operation → Option (List String)
  | .createLayout => none
  | .mapExtraction => some (r.query (.under base) name).words
  | .sift => some (r.siftPlan base name).command.words

theorem settled_ok {directory : Location} {l : Except IoFault Exit × Tree}
    (h : (r.settled ws name directory l).1 = .ok record) :
    record.operation = .mapExtraction ∧ record.state = .completed := by
  obtain ⟨finished, t⟩ := l
  cases finished with
  | error e => cases h
  | ok x =>
    unfold settled at h
    dsimp only at h
    split at h
    · cases h
    · split at h
      · cases h
      · obtain rfl := Except.ok.inj h
        exact ⟨rfl, rfl⟩

/-- An operation that succeeds has launched its command and is recorded as completed. -/
theorem perform_ok (hbase : r.base = .ok base)
    (h : outcome (r.perform (.under base) name op) w = (.ok record, w')) :
    record.operation = op ∧ record.state = .completed ∧
      w'.launches = w.launches ++ (r.command? base name op).toList := by
  cases op with
  | createLayout =>
    obtain ⟨hresult, hleft⟩ := outcome_createLayout r hbase w
    rw [show outcome r.createLayout w = _ from h] at hresult hleft
    obtain ⟨_, -, rfl⟩ := map_eq_ok.1 hresult.symm
    exact ⟨rfl, rfl, hleft.launches⟩
  | mapExtraction =>
    obtain ⟨hresult, hleft⟩ := outcome_mapExtraction r (.under base) name w
    rw [show outcome (r.mapExtraction (.under base) name) w = _ from h] at hresult hleft
    obtain ⟨hoperation, hstate⟩ := settled_ok hresult.symm
    exact ⟨hoperation, hstate, hleft.launches⟩
  | sift =>
    obtain ⟨hresult, hleft⟩ := outcome_sift r hbase name w
    rw [show outcome (r.sift name) w = _ from h] at hresult hleft
    obtain ⟨_, hsifted, rfl⟩ := map_eq_ok.1 hresult.symm
    refine ⟨rfl, rfl, ?_⟩
    rw [hleft.launches]
    -- The sifter is launched only if the directory of its results could be made.
    cases hmade : (madeResults base name w).1 with
    | error e =>
      rw [sifted_of_error r hmade] at hsifted
      cases hsifted
    | ok _ =>
      rw [sifted_of_made r hmade]
      rfl

/-- An operation launches no command but its own. -/
theorem perform_launches (hbase : r.base = .ok base) (name : String) (op : Operation) (w : World) :
    ∃ commands, commands.Sublist (r.command? base name op).toList ∧
      (outcome (r.perform (.under base) name op) w).2.launches = w.launches ++ commands := by
  cases op with
  | createLayout => exact ⟨[], .slnil, (outcome_createLayout r hbase w).2.launches⟩
  | mapExtraction =>
    exact ⟨_, .refl _, (outcome_mapExtraction r (.under base) name w).2.launches⟩
  | sift =>
    refine ⟨_, ?_, (outcome_sift r hbase name w).2.launches⟩
    cases hmade : (madeResults base name w).1 with
    | error e =>
      rw [sifted_of_error r hmade]
      exact List.nil_sublist _
    | ok _ =>
      rw [sifted_of_made r hmade]
      exact .refl _

/-- Operations that are carried out one after the other, each in the world that the one before it
has left, with their records and the world that the last one leaves. -/
inductive Carried (r : Run) (ws : Workspace) (name : String) :
    World → List Operation → List Record → World → Prop
  | none (w : World) : Carried r ws name w [] [] w
  | next {w w' left : World} {op : Operation} {ops : List Operation} {record : Record}
      {records : List Record} (h : outcome (r.perform ws name op) w = (.ok record, w'))
      (rest : Carried r ws name w' ops records left) :
      Carried r ws name w (op :: ops) (record :: records) left

theorem Carried.recorded (hbase : r.base = .ok base)
    (h : Carried r (.under base) name w ops records left) :
    records.map (·.operation) = ops ∧ ∀ record ∈ records, record.state = .completed := by
  induction h with
  | none w => exact ⟨rfl, fun _ hmem => absurd hmem List.not_mem_nil⟩
  | next h rest ih =>
    obtain ⟨hoperation, hstate, -⟩ := perform_ok hbase h
    refine ⟨?_, fun record hmem => ?_⟩
    · rw [List.map_cons, hoperation, ih.1]
    · obtain rfl | hrest := List.mem_cons.1 hmem
      · exact hstate
      · exact ih.2 record hrest

theorem Carried.launches (hbase : r.base = .ok base)
    (h : Carried r (.under base) name w ops records left) :
    left.launches = w.launches ++ ops.filterMap (r.command? base name) := by
  induction h with
  | none w => exact (List.append_nil _).symm
  | @next w w' left op ops record records h rest ih =>
    have hcons : (op :: ops).filterMap (r.command? base name) =
        (r.command? base name op).toList ++ ops.filterMap (r.command? base name) := by
      rw [List.filterMap_cons]
      cases r.command? base name op <;> rfl
    rw [ih, (perform_ok hbase h).2.2, hcons, List.append_assoc]

/-- Carrying out a list either comes to its end or stops at an operation that fails, in the world
that this operation leaves. -/
theorem outcome_mapM (r : Run) (ws : Workspace) (name : String) (ops : List Operation)
    (w : World) :
    ∃ done records left, Carried r ws name w done records left ∧
      ((done = ops ∧ outcome (ops.mapM (r.perform ws name)) w = (.ok records, left)) ∨
        ∃ op later e, ops = done ++ op :: later ∧
          (outcome (r.perform ws name op) left).1 = .error e ∧
          outcome (ops.mapM (r.perform ws name)) w =
            (.error e, (outcome (r.perform ws name op) left).2)) := by
  -- Each operation starts in the world that the one before it leaves.
  induction ops generalizing w with
  | nil => exact ⟨[], [], w, .none w, .inl ⟨rfl, rfl⟩⟩
  | cons op ops ih =>
    rw [List.mapM_cons]
    cases hop : (outcome (r.perform ws name op) w).1 with
    | error e =>
      refine ⟨[], [], w, .none w, .inr ⟨op, ops, e, rfl, hop, ?_⟩⟩
      exact outcome_bind_error hop _
    | ok record =>
      obtain ⟨done, records, left, hcarried, hended⟩ := ih (outcome (r.perform ws name op) w).2
      refine ⟨op :: done, record :: records, left, .next (Prod.ext hop rfl) hcarried, ?_⟩
      rw [outcome_bind_ok hop]
      obtain ⟨rfl, hall⟩ | ⟨failing, later, e, rfl, hfails, hstop⟩ := hended
      · refine .inl ⟨rfl, ?_⟩
        rw [outcome_bind_ok (congrArg Prod.fst hall), hall]
        rfl
      · refine .inr ⟨failing, later, e, rfl, hfails, ?_⟩
        rw [outcome_bind_error (congrArg Prod.fst hstop), hstop]

theorem execute_congr {m : Type → Type} [Monad m] [Host m] {a b : List Operation}
    (h : ∀ op, op ∈ a ↔ op ∈ b) (r : Run) (name : String) :
    (r.execute name a : ExceptT Fault m Report) = r.execute name b := by
  unfold execute
  rw [Operation.ordered_congr h]

theorem execute_refused (h : checkName name = .error e) (requested : List Operation) (w : World) :
    outcome (r.execute name requested) w = (.error e, w) := by
  unfold execute
  rw [h]
  rfl

theorem execute_baseless (hname : checkName name = .ok ()) (h : r.base = .error e)
    (requested : List Operation) (w : World) :
    outcome (r.execute name requested) w = (.error e, w) := by
  unfold execute
  rw [hname, workspace, h]
  rfl

theorem outcome_execute (hname : checkName name = .ok ()) (hbase : r.base = .ok base)
    (requested : List Operation) (w : World) :
    outcome (r.execute name requested) w =
      outcome ((Operation.ordered requested).mapM (r.perform (.under base) name) >>= fun records =>
        pure ⟨name, (Workspace.under base).base, w.time, records⟩) w := by
  unfold execute
  rw [hname, workspace, hbase]
  rfl

/-- A run does what is requested once, in the fixed order, whatever the order and the repetitions
of the request. It ends with the first operation that fails, in the world that this operation
leaves; without a usable name or without a base directory it does nothing. -/
theorem execute_in_order (r : Run) (name : String) (requested : List Operation) (w : World) :
    (Operation.ordered requested).Sublist [.createLayout, .mapExtraction, .sift] ∧
    (∀ op, op ∈ Operation.ordered requested ↔ op ∈ requested) ∧
    (∀ again : List Operation, (∀ op, op ∈ again ↔ op ∈ requested) →
      ∀ (m : Type → Type) [Monad m] [Host m],
        (r.execute name again : ExceptT Fault m Report) = r.execute name requested) ∧
    let ended := outcome (r.execute name requested) w
    match checkName name, r.base with
    | .error e, _ => ended = (.error e, w)
    | .ok _, .error e => ended = (.error e, w)
    | .ok _, .ok base =>
      ∃ done records left, Carried r (.under base) name w done records left ∧
        records.map (·.operation) = done ∧ (∀ record ∈ records, record.state = .completed) ∧
        left.launches = w.launches ++ done.filterMap (r.command? base name) ∧
        ((done = Operation.ordered requested ∧
            ended = (.ok ⟨name, (Workspace.under base).base, w.time, records⟩, left)) ∨
          ∃ op later e commands, Operation.ordered requested = done ++ op :: later ∧
            (outcome (r.perform (.under base) name op) left).1 = .error e ∧
            ended = (.error e, (outcome (r.perform (.under base) name op) left).2) ∧
            commands.Sublist (r.command? base name op).toList ∧
            ended.2.launches = left.launches ++ commands) := by
  refine ⟨Operation.ordered_sublist requested, fun op => Operation.mem_ordered requested,
    fun again h m _ _ => execute_congr h r name, ?_⟩
  cases hname : checkName name with
  | error e => exact execute_refused hname requested w
  | ok _ =>
    cases hbase : r.base with
    | error e => exact execute_baseless hname hbase requested w
    | ok base =>
      dsimp only
      obtain ⟨done, records, left, hcarried, hended⟩ :=
        outcome_mapM r (.under base) name (Operation.ordered requested) w
      obtain ⟨hoperations, hcompleted⟩ := hcarried.recorded hbase
      refine ⟨done, records, left, hcarried, hoperations, hcompleted, hcarried.launches hbase, ?_⟩
      rw [outcome_execute hname hbase]
      obtain ⟨hall, hended⟩ | ⟨op, later, e, hcut, hfails, hended⟩ := hended
      · refine .inl ⟨hall, ?_⟩
        rw [outcome_bind_ok (congrArg Prod.fst hended), hended]
        rfl
      · obtain ⟨commands, hsub, hlaunches⟩ := perform_launches hbase name op left
        have hstop : outcome ((Operation.ordered requested).mapM (r.perform (.under base) name) >>=
            fun records =>
              (pure ⟨name, (Workspace.under base).base, w.time, records⟩ : Action Report)) w =
            (.error e, (outcome (r.perform (.under base) name op) left).2) := by
          rw [outcome_bind_error (congrArg Prod.fst hended), hended]
        rw [hstop]
        exact .inr ⟨op, later, e, commands, hcut, hfails, rfl, hsub, hlaunches⟩

/-- A report that cannot be read ends a run before the sift, however the sift was asked for. -/
theorem execute_in_order_unreadable :
    let r : Run := ⟨{ baseDirectory := some ⟨"/w"⟩ }, ⟨.human, 0, false, false⟩⟩
    let ended := outcome (r.execute "a" [.sift, .mapExtraction, .sift]) World.bare
    (∀ op, op ∈ [Operation.mapExtraction, .sift] ↔
      op ∈ [Operation.sift, .mapExtraction, .sift]) ∧
    (r.execute "a" [.mapExtraction, .sift] : Action Report) =
      r.execute "a" [.sift, .mapExtraction, .sift] ∧
    (∃ cause, ended.1 = .error (.unreadable Fault.reportContext cause)) ∧
    ended.2.launches = [(r.query (.under ⟨"/w"⟩) "a").words] := by
  intro r ended
  have hsame : ∀ op, op ∈ [Operation.mapExtraction, .sift] ↔
      op ∈ [Operation.sift, .mapExtraction, .sift] := by
    intro op
    cases op <;> decide
  obtain ⟨hresult, hleft⟩ := outcome_mapExtraction r (.under ⟨"/w"⟩) "a" World.bare
  obtain ⟨cause, hcause⟩ : ∃ cause,
      (outcome (r.perform (.under ⟨"/w"⟩) "a" .mapExtraction) World.bare).1 =
        .error (.unreadable Fault.reportContext cause) := ⟨_, hresult⟩
  obtain ⟨-, -, hagain, done, records, left, hcarried, -, -, -, hended⟩ :=
    execute_in_order r "a" [.sift, .mapExtraction, .sift] World.bare
  have hordered : Operation.ordered [.sift, .mapExtraction, .sift] = [.mapExtraction, .sift] := by
    rw [Operation.ordered_eq_filter]
    rfl
  rw [hordered] at hended
  -- The extraction comes first and fails, so nothing was carried out.
  cases hcarried with
  | next h rest =>
    obtain ⟨hdone, -⟩ | ⟨_, _, _, _, hcut, -⟩ := hended
    · obtain ⟨rfl, -⟩ := List.cons.inj hdone
      rw [h] at hcause
      cases hcause
    · obtain ⟨rfl, -⟩ := List.cons.inj hcut
      rw [h] at hcause
      cases hcause
  | none =>
    obtain ⟨hdone, -⟩ | ⟨op, later, e, commands, hcut, hfails, hstop, -, -⟩ := hended
    · cases hdone
    · obtain ⟨rfl, -⟩ := List.cons.inj hcut
      obtain rfl := Except.error.inj (hfails.symm.trans hcause)
      refine ⟨hsame, hagain _ hsame Simulation, ⟨cause, congrArg Prod.fst hstop⟩, ?_⟩
      exact (congrArg (World.launches ∘ Prod.snd) hstop).trans hleft.launches

end Run
end DumpWorkbench
