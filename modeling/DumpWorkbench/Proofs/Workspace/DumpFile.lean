import DumpWorkbench.Proofs.Workspace.Resolution

namespace DumpWorkbench.Workspace

open DumpName (Carries Plain dotted fileName hasExtension)
open DumpWorkbench.Path (separator stepsOf trailing?)

variable {name ext : String} {base : Path}

theorem fileName_of_not_hasExtension (h : hasExtension name ext = false) :
    fileName name ext = name ++ "." ++ ext := by
  apply String.toList_injective
  rw [DumpName.toList_fileName h, DumpName.toList_dotted]

theorem fileName_eq_self_iff : fileName name ext = name ↔ hasExtension name ext = true := by
  constructor
  · intro h
    by_contra hbare
    have htext := congrArg String.toList h
    rw [DumpName.toList_fileName (Bool.eq_false_iff.2 hbare)] at htext
    exact List.cons_ne_nil _ _ (List.append_right_eq_self.1 htext)
  · exact DumpName.fileName_of_hasExtension

theorem hasExtension_fileName (hname : Plain name.toList) (hne : ext ≠ "")
    (hext : ∀ c ∈ ext.toList, c ≠ '.' ∧ c ≠ separator) :
    hasExtension (fileName name ext) ext = true ↔
      hasExtension name ext = true ∨ trailing? name.toList = none := by
  cases h : hasExtension name ext with
  | true =>
    rw [DumpName.fileName_of_hasExtension h, h]
    exact iff_of_true rfl (.inl rfl)
  | false =>
    rw [fileName_of_not_hasExtension h, DumpName.hasExtension_appended hname hne hext]
    simp

theorem stepsOf_appended_ne (hne : ext ≠ "")
    (hext : ∀ c ∈ ext.toList, c ≠ '.' ∧ c ≠ separator) (cs : List Char) :
    stepsOf (cs ++ dotted ext ++ dotted ext) ≠ stepsOf (cs ++ dotted ext) := by
  obtain ⟨hsep, hnil, hlast⟩ := DumpName.dotted_spec hne hext
  have hsep' : separator ∉ dotted ext ++ dotted ext := fun h =>
    (List.mem_append.1 h).elim hsep hsep
  have hnil' : dotted ext ++ dotted ext ≠ [] := List.append_ne_nil_of_right_ne_nil _ hnil
  have hlast' : (dotted ext ++ dotted ext).getLast? ≠ some '.' := by
    rwa [List.getLast?_append_of_ne_nil _ hnil]
  intro h
  rw [List.append_assoc, DumpName.stepsOf_appended hsep' hnil' hlast',
    DumpName.stepsOf_appended hsep hnil hlast] at h
  have hname := Path.Component.name.inj (List.singleton_inj.1 (List.append_cancel_left h))
  have htwice := List.append_cancel_left (String.ofList_injective hname)
  exact hnil (List.append_right_eq_self.1 htwice)

theorem dumpPath_fileName_iff (hname : Plain name.toList) (hne : ext ≠ "")
    (hext : ∀ c ∈ ext.toList, c ≠ '.' ∧ c ≠ separator) :
    (under base).dumpPath (fileName name ext) ext = (under base).dumpPath name ext ↔
      hasExtension (fileName name ext) ext = true := by
  constructor
  · intro h
    by_contra hagain
    have hagain := Bool.eq_false_iff.2 hagain
    have hbare : hasExtension name ext = false := by
      cases hhas : hasExtension name ext with
      | true =>
        rw [DumpName.fileName_of_hasExtension hhas, hhas] at hagain
        cases hagain
      | false => rfl
    have hplain := DumpName.plain_fileName hname hne hext
    have hsteps := (dumpPath_eq_iff hplain hname hne hext).1 h
    rw [DumpName.toList_fileName hagain, DumpName.toList_fileName hbare] at hsteps
    exact stepsOf_appended_ne hne hext name.toList hsteps
  · intro h
    rw [dumpPath, dumpPath, DumpName.fileName_of_hasExtension h]

/-- The file of a dump has the name that was given if that carries the extension, and else the name
with the extension appended. The resolved name carries the extension, is resolved to itself, and
leads to the same dump, exactly where the name carried it or nothing trails behind its last
component. -/
theorem dumpFile_resolved {name : String} (hname : DumpName.check name = .ok ()) {s : Settings}
    (hs : s.check = .ok ()) :
    let ext := s.extension
    let resolved := fileName name ext
    (Carries name ext → resolved = name) ∧
    (¬Carries name ext → resolved = name ++ "." ++ ext) ∧
    (∀ n, hasExtension n ext = true ↔ Carries n ext) ∧
    (hasExtension resolved ext = true ↔ Carries name ext ∨ trailing? name.toList = none) ∧
    (fileName resolved ext = resolved ↔ Carries name ext ∨ trailing? name.toList = none) ∧
    ∀ base, (under base).dumpPath resolved ext = (under base).dumpPath name ext ↔
      Carries name ext ∨ trailing? name.toList = none := by
  intro ext resolved
  have hplain := DumpName.plain_of_check hname
  obtain ⟨hne, hext⟩ := Settings.extension_of_check hs
  have hdot : '.' ∉ ext.toList := fun hmem => (hext _ hmem).1 rfl
  have hcarries (n : String) : hasExtension n ext = true ↔ Carries n ext :=
    DumpName.hasExtension_iff_carries hdot
  have hresolved := hasExtension_fileName hplain hne hext
  rw [hcarries name] at hresolved
  refine ⟨fun h => ?_, fun h => ?_, hcarries, hresolved, ?_, fun base => ?_⟩
  · exact DumpName.fileName_of_hasExtension ((hcarries name).2 h)
  · exact fileName_of_not_hasExtension (Bool.eq_false_iff.2 (mt (hcarries name).1 h))
  · exact fileName_eq_self_iff.trans hresolved
  · exact (dumpPath_fileName_iff hplain hne hext).trans hresolved

/-- The dot in front of a name begins no extension, and the one that is appended is found again. -/
theorem dumpFile_resolved_hidden :
    DumpName.check "nested/.crash1" = .ok () ∧ Settings.check {} = .ok () ∧
      fileName "nested/.crash1" "DMP" = "nested/.crash1.DMP" ∧
      fileName (fileName "nested/.crash1" "DMP") "DMP" = fileName "nested/.crash1" "DMP" := by
  have hname : DumpName.check "nested/.crash1" = .ok () := by decide
  have hs : Settings.check {} = .ok () := by decide
  have htrailing : trailing? "nested/.crash1".toList = none := by decide
  have hresolved : fileName "nested/.crash1" "DMP" = "nested/.crash1.DMP" := by decide
  obtain ⟨-, -, -, -, hagain, -⟩ := dumpFile_resolved hname hs
  exact ⟨hname, hs, hresolved, hagain.2 (.inr htrailing)⟩

/-- Behind a separator the extension has no stem, so it is not found again and appended twice. -/
theorem dumpFile_slashed :
    DumpName.check "crash1/" = .ok () ∧ Settings.check {} = .ok () ∧
      fileName "crash1/" "DMP" = "crash1/.DMP" ∧ hasExtension "crash1/.DMP" "DMP" = false ∧
      fileName "crash1/.DMP" "DMP" = "crash1/.DMP.DMP" := by
  decide

end DumpWorkbench.Workspace
