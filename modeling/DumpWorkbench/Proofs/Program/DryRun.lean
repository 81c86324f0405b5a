import DumpWorkbench.Proofs.Log.Opening
import DumpWorkbench.Proofs.Program.Start

namespace DumpWorkbench.Program

open Relation (ReflTransGen)
open Simulation

variable {α β : Type} {o : Options} {r : Run} {arguments : List String} {name : String}
  {operations : List Operation} {entries : List (String × String)} {w : World} {file : Path}

/-- A call that prints and does nothing else. -/
def Prints (x : Simulation α) : Prop :=
  ∀ (R : Tree → Tree → Prop) (w : World), w.Alters R (x w).2

theorem prints_pure (a : α) : Prints (pure a : Simulation α) := fun R w => .refl R w

theorem Prints.bind {x : Simulation α} {f : α → Simulation β} (hx : Prints x)
    (hf : ∀ a, Prints (f a)) : Prints (x >>= f) :=
  fun R w => (hx R w).trans (hf (x w).1 R (x w).2)

theorem Prints.tree {x : Simulation α} (h : Prints x) (w : World) : (x w).2.tree = w.tree := by
  obtain heq | ⟨_, -, hstep⟩ := (h (fun _ _ => False) w).tree.cases_tail
  · exact heq
  · exact hstep.elim

theorem prints_notify (c : Console) (n : Notice) : Prints (Run.notify c n : Simulation Unit) := by
  have hnow : Prints (Host.now : Simulation Timestamp) := fun R w => .refl R w
  refine hnow.bind fun now R => ?_
  exact keeps_forM (R := World.Alters R) (fun _ _ _ => World.Alters.trans) (World.Alters.refl R)
    (fun line w => .print R w line.1 line.2) (c.render now n)

theorem prints_preview (hplan : r.plan name operations = .ok entries) :
    Prints (preview r name operations : Simulation Nat) := by
  unfold preview
  rw [hplan]
  refine (prints_notify _ _).bind fun _ => (prints_notify _ _).bind fun _ => ?_
  split
  · exact (prints_notify _ _).bind fun _ => prints_pure _
  · exact prints_pure _

def madeFile (r : Run) (w : World) : Except Log.Unopened Path × World :=
  (Log.makeFile r.settings : ExceptT Log.Unopened Simulation Path) w

theorem alters_madeFile (r : Run) (w : World) :
    w.Alters (Log.Step r.settings w.directory w.time.date) (madeFile r w).2 :=
  Log.opens_makeFile w rfl rfl

theorem started_of_error {e : Log.Unopened} (h : (madeFile r w).1 = .error e) :
    started r w = (.error e, (madeFile r w).2) :=
  bind_of_error h _

theorem started_of_ok (h : (madeFile r w).1 = .ok file) :
    ∃ sink : Log.Sink, sink.file = file ∧
      started r w = (.ok (), { (madeFile r w).2 with sink := some sink, pending := "" }) :=
  ⟨_, rfl, bind_of_ok h _⟩

theorem closeLog_eq {sink : Log.Sink} (hsink : w.sink = some sink) (hpending : w.pending = "")
    (h : Log.HoldsFile w.tree w.directory sink.file) :
    w.closeLog = { w with sink := none, pending := "" } := by
  have htouch : w.onTree (Files.appendFile sink.file []) = (.ok (), w) := Log.touch_of_holdsFile h
  have hnothing : Utf8.encode "" = [] := rfl
  unfold World.closeLog
  rw [hsink, hpending, hnothing]
  dsimp only
  rw [htouch]

/-- A dry run with a log shows its plan, closes the log, and leaves the files that the log has
left. -/
theorem follow_dryRun (hread : Options.read arguments = .ok o)
    (hgenerate : o.generateConfig = false) (hdry : o.dryRun = true)
    (hrun : (outcome o.run w).1 = .ok r) (hmade : (madeFile r w).1 = .ok file) :
    ((follow o : Simulation Nat) w).1 = exitSuccess ∧
      w.Leaves [] (madeFile r w).2.tree ((follow o : Simulation Nat) w).2 := by
  obtain ⟨name, base, hname, hadmitted, hbase⟩ := admitted_of_read hread hgenerate hrun
  obtain ⟨entries, hplan⟩ := Run.plan_of_base hadmitted hbase o.operations
  have hlogged : (logged o r : Simulation Nat) = preview r name o.operations := by
    unfold logged
    rw [hname]
    exact if_pos hdry
  obtain ⟨sink, hsink, hstarted⟩ := started_of_ok hmade
  rw [follow_of_opened hgenerate hrun (congrArg Prod.fst hstarted), hstarted, hlogged]
  dsimp only
  rw [preview_eq_success ⟨entries, hplan⟩]
  refine ⟨rfl, ?_⟩
  -- The log has nothing pending when it is opened, and a preview adds nothing to it.
  have hopens := alters_madeFile r w
  have hfile : Log.HoldsFile (madeFile r w).2.tree w.directory file :=
    (Log.holdsFile_of_makeFile hmade).2
  generalize (madeFile r w).2 = made at hopens hfile ⊢
  have hshown := (prints_preview hplan) (fun _ _ => False)
    { made with sink := some sink, pending := "" }
  have htree := (prints_preview hplan).tree { made with sink := some sink, pending := "" }
  generalize ((preview r name o.operations : Simulation Nat)
    { made with sink := some sink, pending := "" }).2 = shown at hshown htree ⊢
  have hshownFile : Log.HoldsFile shown.tree shown.directory sink.file := by
    rw [htree, hshown.directory, hsink]
    change Log.HoldsFile made.tree made.directory file
    rw [hopens.directory]
    exact hfile
  rw [closeLog_eq hshown.sink hshown.pending hshownFile]
  have hleft := hshown.leaves
  rw [htree] at hleft
  have hopened := hopens.leaves.quiet (.withLog made (some sink) "")
  exact (hopened.quiet hleft).quiet (.withLog shown none "")

theorem follow_logless {e : Log.Unopened} (hgenerate : o.generateConfig = false)
    (hrun : (outcome o.run w).1 = .ok r) (hmade : (madeFile r w).1 = .error e) :
    ((follow o : Simulation Nat) w).1 = exitLogging ∧
      w.Leaves [] (madeFile r w).2.tree ((follow o : Simulation Nat) w).2 := by
  have hstarted := started_of_error hmade
  rw [follow_of_unopened hgenerate hrun (congrArg Prod.fst hstarted), hstarted]
  exact ⟨rfl, (alters_madeFile r w).leaves.quiet (leaves_record _ rfl)⟩

/-- What a dry run does to the files is what opening its log does to them: it launches nothing, and
with wrong settings it changes nothing. Otherwise directories on the way to the log file are made,
old log files are removed and an empty log file is added; every other location keeps what is there.
The files are left alone if the log stands already. -/
theorem dryRun_only_opens_log (arguments : List String) (o : Options) (w : World)
    (hread : Options.read arguments = .ok o) (hdry : o.dryRun = true)
    (hgenerate : o.generateConfig = false) :
    let ended := (run arguments : Simulation Nat) w
    ended.2.launches = w.launches ∧
    match (outcome o.run w).1 with
    | .error e => ended.1 = e.exitCode ∧ ended.2.tree = w.tree
    | .ok r =>
      let day := w.time.date
      ReflTransGen (Log.Step r.settings w.directory day) w.tree ended.2.tree ∧
      (∀ l, ended.2.tree.get? l = w.tree.get? l ∨
        Log.Dropped r.settings w.directory day w.tree l ∨
        w.tree.get? l = none ∧ (ended.2.tree.get? l = some .directory ∨
          ended.2.tree.get? l = some (.file [] false))) ∧
      (ended.1 = exitSuccess ∧
          Log.HoldsFile ended.2.tree w.directory (Log.file r.settings day) ∨
        ended.1 = exitLogging) ∧
      (Log.Stands r.settings w.directory day w.tree →
        ended.1 = exitSuccess ∧ ended.2.tree = w.tree) := by
  have hfollow : (run arguments : Simulation Nat) = follow o := by
    unfold run
    rw [hread]
  rw [hfollow]
  intro ended
  cases hrun : (outcome o.run w).1 with
  | error e =>
    have hended : ended = (fail ⟨.human, 0, false, w.terminal⟩ e : Simulation Nat) w :=
      follow_of_fault hgenerate hrun
    have hleft := quiet_fail ⟨.human, 0, false, w.terminal⟩ e w
    rw [← hended] at hleft
    refine ⟨hleft.launches.trans (List.append_nil _), ?_, hleft.tree⟩
    rw [hended]
    rfl
  | ok r =>
    have hopens := alters_madeFile r w
    have hended : (ended.1 = exitSuccess ∧ Log.HoldsFile (madeFile r w).2.tree w.directory
          (Log.file r.settings w.time.date) ∨ ended.1 = exitLogging) ∧
        w.Leaves [] (madeFile r w).2.tree ended.2 := by
      cases hmade : (madeFile r w).1 with
      | error e =>
        obtain ⟨hcode, hleft⟩ := follow_logless hgenerate hrun hmade
        exact ⟨.inr hcode, hleft⟩
      | ok file =>
        obtain ⟨hcode, hleft⟩ := follow_dryRun hread hgenerate hdry hrun hmade
        obtain ⟨rfl, hfile⟩ := Log.holdsFile_of_makeFile hmade
        exact ⟨.inl ⟨hcode, hfile⟩, hleft⟩
    obtain ⟨hcode, hleft⟩ := hended
    rw [hleft.tree]
    refine ⟨hleft.launches.trans (List.append_nil _), hopens.tree, Log.kept_of_steps hopens.tree,
      hcode, fun hstands => ?_⟩
    have hmade : madeFile r w = (.ok (Log.file r.settings w.time.date), w) := hstands.makeFile_eq
    obtain ⟨hsuccess, -⟩ := follow_dryRun hread hgenerate hdry hrun (congrArg Prod.fst hmade)
    exact ⟨hsuccess, congrArg (fun made : Except Log.Unopened Path × World => made.2.tree) hmade⟩

/-- A dry run beside the log of an earlier run that day. -/
theorem dryRun_only_opens_log_standing :
    let arguments := ["--dry-run", "--sifter", "--base-dir", "work", "--bin-name", "crash1"]
    let o : Options :=
      { sifter := true, dryRun := true, baseDir := some ⟨"work"⟩, binName := some "crash1" }
    let t : Tree := ⟨[(["analyze_dumps.log.1970-01-01"], .file [0x21] false)]⟩
    let w : World := { World.bare with tree := t }
    let ended := (run arguments : Simulation Nat) w
    Options.read arguments = .ok o ∧ ended.1 = exitSuccess ∧ ended.2.launches = [] ∧
      ended.2.tree = t := by
  intro arguments o t w ended
  have hread : Options.read arguments = .ok o := by decide +kernel
  have hfound : (outcome o.run w).1.toOption.map (·.settings) =
      some { baseDirectory := some ⟨"/work"⟩ } := by decide +kernel
  obtain ⟨hlaunches, hended⟩ := dryRun_only_opens_log arguments o w hread rfl rfl
  cases hrun : (outcome o.run w).1 with
  | error e =>
    rw [hrun] at hfound
    cases hfound
  | ok r =>
    rw [hrun] at hfound hended
    have hsettings : r.settings = { baseDirectory := some ⟨"/work"⟩ } := Option.some.inj hfound
    dsimp only at hended
    rw [hsettings] at hended
    have hstands : Log.Stands { baseDirectory := some ⟨"/work"⟩ } w.directory w.time.date t := by
      refine ⟨by decide +kernel, ⟨["analyze_dumps.log.1970-01-01"], [0x21], false, ?_, rfl⟩,
        fun names hnames => ?_⟩
      · decide +kernel
      · obtain rfl : ["analyze_dumps.log.1970-01-01"] = names := Except.ok.inj hnames
        decide +kernel
    obtain ⟨hcode, htree⟩ := hended.2.2.2 hstands
    exact ⟨hread, hcode, hlaunches, htree⟩

/-- The first dry run of a day leaves a log directory with a file in it. -/
theorem dryRun_leaves_log :
    let arguments :=
      ["--dry-run", "--log-dir", "logs", "--base-dir", "work", "--bin-name", "crash1"]
    let o : Options :=
      { dryRun := true
        logDir := some ⟨"logs"⟩
        baseDir := some ⟨"work"⟩
        binName := some "crash1" }
    let ended := (run arguments : Simulation Nat) World.bare
    Options.read arguments = .ok o ∧ ended.1 = exitSuccess ∧
      World.bare.tree.get? ["logs"] = none ∧ ended.2.tree.get? ["logs"] = some .directory ∧
      ended.2.tree.get? ["logs", "analyze_dumps.log.1970-01-01"] = some (.file [] false) := by
  decide +kernel

end DumpWorkbench.Program
