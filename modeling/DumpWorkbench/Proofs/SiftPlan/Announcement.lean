import DumpWorkbench.Proofs.DumpName
import DumpWorkbench.Proofs.Path.Normal
import DumpWorkbench.Proofs.Run.Sift
import DumpWorkbench.Proofs.Shell.Quote

namespace DumpWorkbench

open Simulation

namespace Workspace

variable {base : Path} {name : String}

/-- The base directory is more than `.`, and no segment of the name is empty or `.`. -/
def AnnouncedAsMade (base : Path) (name : String) : Prop :=
  base.steps ≠ [] ∧ Path.Clean name.toList

theorem searches_last (base : Path) :
    (under base).searches.text.toList.getLast? ≠ some Path.separator := by
  obtain ⟨cs, htext, -⟩ :=
    Path.join_text (q := "searches") (Path.normalize_text_ne base) (by decide)
  have hlast : (cs ++ Path.separator :: "searches".toList).getLast? = some 's' := by
    rw [List.getLast?_append_of_ne_nil _ (List.cons_ne_nil _ _)]
    rfl
  change (base.normalize.join "searches").text.toList.getLast? ≠ _
  rw [htext, hlast]
  decide

theorem searches_text_ne (base : Path) : (under base).searches.text ≠ "" := by
  obtain ⟨cs, htext, -⟩ :=
    Path.join_text (q := "searches") (Path.normalize_text_ne base) (by decide)
  intro h
  change (base.normalize.join "searches").text = "" at h
  rw [h] at htext
  exact absurd htext.symm (by simp)

/-- The directory of results is made under the path that is announced exactly where that path is
in normal form already. -/
theorem searchPath_eq_announced_iff (base : Path) (hname : DumpName.Plain name.toList) :
    (under base).searchPath name = (under base).announcedSearchPath name ↔
      AnnouncedAsMade base name := by
  have hbody := Path.body_join (searches_text_ne base) hname.relative (searches_last base)
  have hsteps : Path.stepsOf ((under base).searches.join name).body ≠ [] := by
    obtain ⟨names, hne, hnames⟩ := hname.steps
    rw [hbody, Path.stepsOf_append_separator, hnames]
    exact List.append_ne_nil_of_right_ne_nil _ (by simpa using hne)
  have hsearches : Path.Clean (under base).searches.body ↔
      base.steps ≠ [] ∧ Path.Clean "searches".toList := Path.clean_join_iff (by decide) base
  have hdirectory : Path.Clean "searches".toList := by
    intro s hs
    obtain rfl := List.mem_singleton.1 hs
    decide
  unfold searchPath announcedSearchPath AnnouncedAsMade
  rw [Path.normalize_eq_self_iff hsteps, hbody, Path.clean_append_separator, hsearches]
  exact ⟨fun h => ⟨h.1.1, h.2⟩, fun h => ⟨⟨h.1, hdirectory⟩, h.2⟩⟩

end Workspace

namespace SiftPlan

variable {base sifter : Path} {name ext : String} {threads : Nat} {ws : Workspace}

theorem into_searchPath (ws : Workspace) (sifter : Path) (name ext : String) (threads : Nat) :
    into (ws.searchPath name) ws sifter name ext threads =
      { announced ws sifter name ext threads with
        output := (ws.announcedSearchPath name).normalize } := by
  simp only [announced, into, Workspace.searchPath, Workspace.announcedSearchPath]

theorem into_eq_announced_iff (base : Path) (hname : DumpName.Plain name.toList) :
    into ((Workspace.under base).searchPath name) (.under base) sifter name ext threads =
        announced (.under base) sifter name ext threads ↔
      Workspace.AnnouncedAsMade base name := by
  rw [← Workspace.searchPath_eq_announced_iff base hname]
  constructor
  · intro h
    exact congrArg output h
  · intro h
    rw [announced, h]

/-- Command lines of plans that differ in the directory of results only are different. -/
theorem rendered_into_inj {p q : Path} :
    (into p ws sifter name ext threads).command.rendered =
      (into q ws sifter name ext threads).command.rendered ↔ p = q := by
  have hline := Shell.commandLine_inj_at (x := p.text) (y := q.text)
    [sifter.text, "-n", toString threads, "-plr", "-o"]
    ["--r2-sections", (ws.mapPath name).text, "--dmp", (ws.dumpPath name ext).text]
  refine hline.trans ?_
  constructor
  · intro h
    obtain ⟨p⟩ := p
    exact congrArg Path.mk h
  · rintro rfl
    rfl

end SiftPlan

namespace Run

/-- A plan that names a sift shows the command line of the announced one. -/
theorem lookup_plan (r : Run) {base : Path} {name : String} {requested : List Operation}
    (hbase : r.base = .ok base) (hname : DumpName.check name = .ok ())
    (hsift : Operation.sift ∈ requested) :
    ∃ entries, r.plan name requested = .ok entries ∧
      entries.lookup "luau-sifter" = some (SiftPlan.announced (.under base) r.settings.sifter name
        r.settings.extension r.settings.threads.toNat).command.rendered := by
  have hcheck : checkName name = .ok () := by
    rw [checkName, hname]
    rfl
  have hworkspace : r.workspace = .ok (.under base) := by
    rw [workspace, hbase]
    rfl
  have hcontains : requested.contains .sift = true := List.contains_iff_mem.2 hsift
  refine ⟨_, bind_eq_ok.2 ⟨(), hcheck, bind_eq_ok.2 ⟨_, hworkspace, rfl⟩⟩, ?_⟩
  rw [if_pos hcontains]
  split <;> split <;> rfl

/-- A sift is carried out as it is announced exactly where the base directory is more than `.` and
the name has no empty and no `.` segment. Elsewhere the directory of results is made and passed on
in normal form, while the plan and the record spell it as it was given. -/
theorem sift_as_announced (r : Run) {base : Path} {name : String} {w w' : World} {plan : SiftPlan}
    (hbase : r.base = .ok base) (hname : DumpName.check name = .ok ())
    (hplan : outcome (SiftPlan.prepare (.under base) r.settings.sifter name r.settings.extension
      r.settings.threads.toNat) w = (.ok plan, w')) :
    let shown := SiftPlan.announced (.under base) r.settings.sifter name r.settings.extension
      r.settings.threads.toNat
    (plan = shown ↔ Workspace.AnnouncedAsMade base name) ∧
    plan = { shown with output := shown.output.normalize } ∧
    (∀ requested, Operation.sift ∈ requested → ∃ entries text,
      r.plan name requested = .ok entries ∧ entries.lookup "luau-sifter" = some text ∧
      (text = plan.command.rendered ↔ Workspace.AnnouncedAsMade base name)) ∧
    (outcome (r.sift name) w).2.launches = w.launches ++ [plan.command.words] ∧
    (∃ before after, plan.command.words = before ++ "-o" :: plan.output.text :: after) ∧
    ∀ record, (outcome (r.sift name) w).1 = .ok record → ∃ artifact : Path,
      record.artifact = some (artifact : RawPath) ∧
      (artifact = plan.output ↔ Workspace.AnnouncedAsMade base name) := by
  obtain ⟨hmade, rfl⟩ := eq_siftPlan_of_prepared hplan
  have hplain := DumpName.plain_of_check hname
  obtain ⟨hresult, hleft⟩ := outcome_sift r hbase name w
  rw [sifted_of_made r hmade] at hresult hleft
  have hpath := Workspace.searchPath_eq_announced_iff base hplain
  refine ⟨SiftPlan.into_eq_announced_iff base hplain, SiftPlan.into_searchPath _ _ _ _ _, ?_,
    hleft.launches, ?_, ?_⟩
  · intro requested hsift
    obtain ⟨entries, hentries, hlookup⟩ := lookup_plan r hbase hname hsift
    refine ⟨entries, _, hentries, hlookup, ?_⟩
    rw [← hpath, eq_comm]
    exact SiftPlan.rendered_into_inj
  · exact ⟨[r.settings.sifter.text, "-n", toString r.settings.threads.toNat, "-plr"], _, rfl⟩
  · intro record hrecord
    rw [hresult] at hrecord
    obtain ⟨o, -, rfl⟩ := map_eq_ok.1 hrecord
    exact ⟨_, rfl, eq_comm.trans hpath⟩

/-- A doubled separator is announced, but not made. -/
theorem sift_announced_doubled :
    let r : Run := ⟨{ baseDirectory := some ⟨"/w"⟩ }, ⟨.human, 0, false, false⟩⟩
    r.siftPlan ⟨"/w"⟩ "a//b" ≠ SiftPlan.announced (.under ⟨"/w"⟩) r.settings.sifter "a//b"
      r.settings.extension r.settings.threads.toNat := by
  intro r hsame
  have hname : DumpName.check "a//b" = .ok () := by decide
  have hmade : (madeResults ⟨"/w"⟩ "a//b" .bare).1 = .ok () := by decide +kernel
  have hplan := outcome_prepared_of_made r hmade
  have hclean := ((sift_as_announced r rfl hname hplan).1.1 hsame).2
  exact (hclean [] (by decide)).1 rfl

end Run
end DumpWorkbench
