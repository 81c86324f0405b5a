import DumpWorkbench.Proofs.DumpName.FileName
import DumpWorkbench.Proofs.Workspace.Containment

namespace DumpWorkbench.Workspace

open DumpName (Plain dotted fileName hasExtension)
open DumpWorkbench.Path (Component above ending separator stepsOf trailing?)

variable {a b ext p q : String} {base : Path}

theorem steps_plain (h : Plain p.toList) : (Path.mk p).steps = stepsOf p.toList := by
  have hrel : (Path.mk p).isAbsolute ≠ true := fun habs => h.relative (beq_iff_eq.1 habs)
  rw [Path.steps_eq, if_neg hrel]
  rfl

theorem normalize_join_inj {directory : Path} (hp : p.toList.head? ≠ some separator)
    (hq : q.toList.head? ≠ some separator) :
    (directory.join p).normalize = (directory.join q).normalize ↔
      stepsOf p.toList = stepsOf q.toList := by
  rw [Path.normalize_eq_iff, Path.steps_join hp, Path.steps_join hq, List.append_right_inj]

theorem searchPath_eq_iff (base : Path) (ha : Plain a.toList) (hb : Plain b.toList) :
    (under base).searchPath a = (under base).searchPath b ↔
      stepsOf a.toList = stepsOf b.toList :=
  normalize_join_inj ha.relative hb.relative

theorem mapPath_eq_iff (ha : Plain a.toList) (hb : Plain b.toList) :
    (under base).mapPath a = (under base).mapPath b ↔
      above a.toList = above b.toList ∧ ending a.toList = ending b.toList := by
  obtain ⟨hsep, hne, hlast⟩ := DumpName.mapSuffix_spec
  have hrel {c : String} (hc : Plain c.toList) : (c ++ ".json").toList.head? ≠ some separator := by
    rw [String.toList_append]
    exact (hc.append hsep hlast).relative
  have hsteps := DumpName.stepsOf_appended_inj hsep hne hlast a.toList b.toList
  rw [← hsteps, ← String.toList_append, ← String.toList_append]
  exact normalize_join_inj (hrel ha) (hrel hb)

theorem dumpPath_eq_iff (ha : Plain a.toList) (hb : Plain b.toList) (hne : ext ≠ "")
    (hext : ∀ c ∈ ext.toList, c ≠ '.' ∧ c ≠ separator) :
    (under base).dumpPath a ext = (under base).dumpPath b ext ↔
      stepsOf (fileName a ext).toList = stepsOf (fileName b ext).toList :=
  normalize_join_inj (DumpName.plain_fileName ha hne hext).relative
    (DumpName.plain_fileName hb hne hext).relative

/-- The last step of the second name is that of the first with the extension behind it, and the
steps before are the same. -/
def Extended (ext a b : String) : Prop :=
  ∃ (before : List Component) (stem : String), (Path.mk a).steps = before ++ [.name stem] ∧
    (Path.mk b).steps = before ++ [.name (stem ++ "." ++ ext)]

/-- Only a name with the extension leads to the dump of a name without it. -/
theorem extended_of_steps (ha : Plain a.toList) (hb : Plain b.toList) (hne : ext ≠ "")
    (hext : ∀ c ∈ ext.toList, c ≠ '.' ∧ c ≠ separator) (hbare : hasExtension a ext = false)
    (hfull : hasExtension b ext = true)
    (h : stepsOf (fileName a ext).toList = stepsOf (fileName b ext).toList) :
    Extended ext a b := by
  obtain ⟨hsep, hnil, hlast⟩ := DumpName.dotted_spec hne hext
  have hb_steps : stepsOf b.toList =
      above a.toList ++ [.name (String.ofList (ending a.toList ++ dotted ext))] := by
    rw [DumpName.toList_fileName hbare, DumpName.fileName_of_hasExtension hfull,
      DumpName.stepsOf_appended hsep hnil hlast] at h
    exact h.symm
  -- The extension stands behind a name, so the first name ends with a step.
  rw [DumpName.ofList_dotted] at hb_steps
  have hstem := (DumpName.hasExtension_iff_stem hb (fun hmem => (hext _ hmem).1 rfl) hb_steps).1
    hfull
  rw [String.toList_ofList] at hstem
  refine ⟨above a.toList, String.ofList (ending a.toList), ?_, ?_⟩
  · rw [steps_plain ha, Path.stepsOf_eq_above, hstem]
    rfl
  · rw [steps_plain hb, hb_steps]

/-- Dumps of different names never share a map or a directory of results, and they share a dump
only if one of the names is the other with the extension. -/
theorem name_of_path (base : Path) {a b : String} (ha : DumpName.check a = .ok ())
    (hb : DumpName.check b = .ok ()) :
    ((under base).mapPath a = (under base).mapPath b → (Path.mk a).steps = (Path.mk b).steps) ∧
    (∀ w w₁ w' w₁' p, Simulation.outcome ((under base).makeSearchPath a) w = (.ok p, w₁) →
      Simulation.outcome ((under base).makeSearchPath b) w' = (.ok p, w₁') →
      (Path.mk a).steps = (Path.mk b).steps) ∧
    ∀ s : Settings, s.check = .ok () →
      (under base).dumpPath a s.extension = (under base).dumpPath b s.extension →
      (Path.mk a).steps = (Path.mk b).steps ∨ Extended s.extension a b ∨
        Extended s.extension b a := by
  have hpa := DumpName.plain_of_check ha
  have hpb := DumpName.plain_of_check hb
  rw [steps_plain hpa, steps_plain hpb]
  refine ⟨?_, ?_, ?_⟩
  · intro h
    obtain ⟨habove, hending⟩ := (mapPath_eq_iff hpa hpb).1 h
    rw [Path.stepsOf_eq_above a.toList, habove, hending, ← Path.stepsOf_eq_above]
  · intro w w₁ w' w₁' p hmade hmade'
    apply (searchPath_eq_iff base hpa hpb).1
    rw [← eq_searchPath_of_makeSearchPath hmade, ← eq_searchPath_of_makeSearchPath hmade']
  · intro s hs h
    obtain ⟨hne, hext⟩ := Settings.extension_of_check hs
    have hsteps := (dumpPath_eq_iff hpa hpb hne hext).1 h
    cases hea : hasExtension a s.extension with
    | true =>
      cases heb : hasExtension b s.extension with
      | true =>
        rw [DumpName.fileName_of_hasExtension hea, DumpName.fileName_of_hasExtension heb] at hsteps
        exact .inl hsteps
      | false => exact .inr (.inr (extended_of_steps hpb hpa hne hext heb hea hsteps.symm))
    | false =>
      cases heb : hasExtension b s.extension with
      | true => exact .inr (.inl (extended_of_steps hpa hpb hne hext hea heb hsteps))
      | false =>
        obtain ⟨hsep, hnil, hlast⟩ := DumpName.dotted_spec hne hext
        rw [DumpName.toList_fileName hea, DumpName.toList_fileName heb,
          DumpName.stepsOf_appended_inj hsep hnil hlast] at hsteps
        obtain ⟨habove, hending⟩ := hsteps
        rw [Path.stepsOf_eq_above a.toList, habove, hending, ← Path.stepsOf_eq_above]
        exact .inl rfl

/-- A map of a name with a doubled separator, and a dump that is named with and without its
extension. -/
theorem name_of_path_doubled :
    (DumpName.check "a//b" = .ok () ∧ DumpName.check "a/b" = .ok () ∧
      (under ⟨"/w"⟩).mapPath "a//b" = (under ⟨"/w"⟩).mapPath "a/b" ∧
      (Path.mk "a//b").steps = (Path.mk "a/b").steps) ∧
    DumpName.check "c.DMP" = .ok () ∧ DumpName.check "c" = .ok () ∧ Settings.check {} = .ok () ∧
    (under ⟨"/w"⟩).dumpPath "c.DMP" "DMP" = (under ⟨"/w"⟩).dumpPath "c" "DMP" ∧
    ((Path.mk "c.DMP").steps = (Path.mk "c").steps ∨ Extended "DMP" "c.DMP" "c" ∨
      Extended "DMP" "c" "c.DMP") := by
  have hab : DumpName.check "a//b" = .ok () := by decide
  have hab' : DumpName.check "a/b" = .ok () := by decide
  have hmap : (under ⟨"/w"⟩).mapPath "a//b" = (under ⟨"/w"⟩).mapPath "a/b" := by decide
  have hc : DumpName.check "c.DMP" = .ok () := by decide
  have hc' : DumpName.check "c" = .ok () := by decide
  have hs : Settings.check {} = .ok () := by decide
  have hdump : (under ⟨"/w"⟩).dumpPath "c.DMP" "DMP" = (under ⟨"/w"⟩).dumpPath "c" "DMP" := by
    decide
  exact ⟨⟨hab, hab', hmap, (name_of_path ⟨"/w"⟩ hab hab').1 hmap⟩, hc, hc', hs, hdump,
    (name_of_path ⟨"/w"⟩ hc hc').2.2 {} hs hdump⟩

/-- Names of the same steps have one directory of results. They have one map exactly where the same
trails behind their last step, and one dump exactly there or where they have the extension. -/
theorem paths_of_respelled (base : Path) {a b : String} (ha : DumpName.check a = .ok ())
    (hb : DumpName.check b = .ok ()) (hsame : (Path.mk a).steps = (Path.mk b).steps)
    {s : Settings} (hs : s.check = .ok ()) :
    (under base).searchPath a = (under base).searchPath b ∧
    (∀ w, Simulation.outcome ((under base).makeSearchPath a) w =
      Simulation.outcome ((under base).makeSearchPath b) w) ∧
    ((under base).mapPath a = (under base).mapPath b ↔
      trailing? a.toList = trailing? b.toList) ∧
    ((under base).dumpPath a s.extension = (under base).dumpPath b s.extension ↔
      hasExtension a s.extension = true ∨ trailing? a.toList = trailing? b.toList) := by
  have hpa := DumpName.plain_of_check ha
  have hpb := DumpName.plain_of_check hb
  obtain ⟨hne, hext⟩ := Settings.extension_of_check hs
  rw [steps_plain hpa, steps_plain hpb] at hsame
  have hsearch := (searchPath_eq_iff base hpa hpb).2 hsame
  have hparts := Path.same_parts_iff hsame
  refine ⟨hsearch, ?_, ?_, ?_⟩
  · intro w
    unfold makeSearchPath
    rw [hsearch]
  · rw [mapPath_eq_iff hpa hpb, hparts]
  · have hboth := DumpName.hasExtension_congr hpa hpb hsame s.extension
    rw [dumpPath_eq_iff hpa hpb hne hext]
    cases hea : hasExtension a s.extension with
    | true =>
      rw [DumpName.fileName_of_hasExtension hea,
        DumpName.fileName_of_hasExtension (hboth ▸ hea)]
      exact iff_of_true hsame (.inl rfl)
    | false =>
      obtain ⟨hsep, hnil, hlast⟩ := DumpName.dotted_spec hne hext
      rw [DumpName.toList_fileName hea, DumpName.toList_fileName (hboth ▸ hea),
        DumpName.stepsOf_appended_inj hsep hnil hlast, hparts]
      simp

/-- Doubled separators and dots between names do not matter. -/
theorem paths_of_respelled_inner :
    DumpName.check "a//./b" = .ok () ∧ DumpName.check "a/b" = .ok () ∧
      (Path.mk "a//./b").steps = (Path.mk "a/b").steps ∧ Settings.check {} = .ok () ∧
      (under ⟨"/w"⟩).mapPath "a//./b" = (under ⟨"/w"⟩).mapPath "a/b" ∧
      (under ⟨"/w"⟩).dumpPath "a//./b" "DMP" = (under ⟨"/w"⟩).dumpPath "a/b" "DMP" := by
  have ha : DumpName.check "a//./b" = .ok () := by decide
  have hb : DumpName.check "a/b" = .ok () := by decide
  have hsame : (Path.mk "a//./b").steps = (Path.mk "a/b").steps := by decide
  have hs : Settings.check {} = .ok () := by decide
  have htrailing : trailing? "a//./b".toList = trailing? "a/b".toList := by decide
  obtain ⟨-, -, hmap, hdump⟩ := paths_of_respelled ⟨"/w"⟩ ha hb hsame hs
  exact ⟨ha, hb, hsame, hs, hmap.2 htrailing, hdump.2 (.inr htrailing)⟩

/-- A separator at the end of a name splits its dump: the map and the dump of `crash1/` are others
than those of `crash1`, the directory of results is the same. -/
theorem paths_of_slashed_differ :
    DumpName.check "crash1/" = .ok () ∧ DumpName.check "crash1" = .ok () ∧
      (Path.mk "crash1/").components = (Path.mk "crash1").components ∧
      (under ⟨"/w"⟩).searchPath "crash1/" = (under ⟨"/w"⟩).searchPath "crash1" ∧
      (under ⟨"/w"⟩).mapPath "crash1/" ≠ (under ⟨"/w"⟩).mapPath "crash1" ∧
      (under ⟨"/w"⟩).dumpPath "crash1/" "DMP" ≠ (under ⟨"/w"⟩).dumpPath "crash1" "DMP" := by
  decide

end DumpWorkbench.Workspace
