import DumpWorkbench.Proofs.Tree.Changes

namespace DumpWorkbench.Tree

open Relation (ReflTransGen)

variable {written written' : Location → Bytes → Prop} {t t' t'' : Tree}
  {spot directory l : Location}
  {p : Path} {old content : Bytes} {executable : Bool}

/-- A file with its content is at a location, where a file as executable as this one was or
nothing. -/
def Filed (t t' : Tree) (l : Location) (content : Bytes) : Prop :=
  ∃ executable, t'.get? l = some (.file content executable) ∧
    ((t.get? l = none ∧ executable = false) ∨ ∃ old, t.get? l = some (.file old executable))

/-- The second tree is the first one with directories where nothing was, and with the written files
where no directory was. -/
def Grows (written : Location → Bytes → Prop) (t t' : Tree) : Prop :=
  ∀ l, t'.get? l = t.get? l ∨ (t.get? l = none ∧ t'.get? l = some .directory) ∨
    ∃ content, written l content ∧ Filed t t' l content

theorem Grows.refl (written : Location → Bytes → Prop) (t : Tree) : Grows written t t :=
  fun _ => .inl rfl

theorem Grows.mono (h : Grows written t t')
    (hwritten : ∀ l content, written l content → written' l content) : Grows written' t t' := by
  intro l
  obtain hsame | hmade | ⟨content, hl, hfiled⟩ := h l
  · exact .inl hsame
  · exact .inr (.inl hmade)
  · exact .inr (.inr ⟨content, hwritten l content hl, hfiled⟩)

theorem Grows.extends (h : Grows written t t') : Extends t t' := by
  intro l hl
  obtain hsame | ⟨hnone, -⟩ | ⟨content, -, executable, -, hbefore⟩ := h l
  · rw [hsame, hl]
  · rw [hl] at hnone
    cases hnone
  · rw [hl] at hbefore
    simp at hbefore

theorem Grows.trans (h : Grows written t t') (h' : Grows written t' t'') :
    Grows written t t'' := by
  intro l
  have hkept := h'.extends l
  obtain hsame | ⟨hnone, hmade⟩ | ⟨content, hl, executable, hfile, hbefore⟩ := h l
  · have hback := h' l
    unfold Filed at hback ⊢
    rw [hsame] at hback
    exact hback
  · exact .inr (.inl ⟨hnone, hkept hmade⟩)
  · -- What was a file after the first step is one still, with a content of the same kind.
    obtain hsame | ⟨hnone, -⟩ | ⟨later, hl', executable', hfile', hbefore'⟩ := h' l
    · exact .inr (.inr ⟨content, hl, executable, hsame.trans hfile, hbefore⟩)
    · rw [hfile] at hnone
      cases hnone
    · obtain ⟨hnone, -⟩ | ⟨old, hold⟩ := hbefore'
      · rw [hfile] at hnone
        cases hnone
      · rw [hfile] at hold
        cases hold
        exact .inr (.inr ⟨later, hl', executable, hfile', hbefore⟩)

theorem Grows.of_file (h : Grows written t t') (hfile : t.get? l = some (.file old executable)) :
    ∃ content, t'.get? l = some (.file content executable) ∧
      (content = old ∨ written l content) := by
  obtain hsame | ⟨hnone, -⟩ | ⟨content, hwritten, executable', hnow, hbefore⟩ := h l
  · exact ⟨old, hsame.trans hfile, .inl rfl⟩
  · rw [hfile] at hnone
    cases hnone
  · rw [hfile] at hbefore
    obtain ⟨hnone, -⟩ | ⟨_, hbefore⟩ := hbefore
    · cases hnone
    · cases hbefore
      exact ⟨content, hnow, .inr hwritten⟩

/-- What a tree grows by is a directory, or a file with a written content. -/
theorem Grows.of_missing {node : Node} (h : Grows written t t') (hnone : t.get? l = none)
    (hnode : t'.get? l = some node) :
    node = .directory ∨ ∃ content, node = .file content false ∧ written l content := by
  obtain hsame | ⟨-, hmade⟩ | ⟨content, hwritten, executable, hnow, hbefore⟩ := h l
  · rw [hsame, hnone] at hnode
    cases hnode
  · exact .inl (Option.some.inj (hnode.symm.trans hmade))
  · rw [hnone] at hbefore
    obtain ⟨-, rfl⟩ | ⟨_, hbefore⟩ := hbefore
    · exact .inr ⟨content, Option.some.inj (hnode.symm.trans hnow), hwritten⟩
    · cases hbefore

theorem ne_nil_of_get? (h : t.get? l = none) : l ≠ [] := by
  rintro rfl
  cases h

theorem grows_of_makesOne {ps : List Path} (h : MakesOne directory ps t t') :
    Grows written t t' := by
  obtain ⟨p, -, place, -, hnone, rfl⟩ := h
  have hroot := ne_nil_of_get? hnone
  intro l
  by_cases hl : l = place.location
  · subst hl
    exact .inr (.inl ⟨hnone, get?_put_self hroot t .directory⟩)
  · exact .inl (get?_put_of_ne hl t .directory)

theorem grows_makeDirectories (t : Tree) (directory : Location) (p : Path) :
    Grows written t (t.makeDirectories directory p).2 := by
  have hmakes := makeDirectories_makes directory p t
  generalize (t.makeDirectories directory p).2 = left at hmakes ⊢
  induction hmakes with
  | refl => exact .refl written t
  | tail _ hstep ih => exact ih.trans (grows_of_makesOne hstep)

theorem grows_put (h : t.openFile directory p = .ok (spot, old, executable))
    (hwritten : written spot content) :
    Grows written t (t.put spot (.file content executable)) := by
  have hput := get?_put_self (ne_nil_of_openFile h) t (.file content executable)
  intro l
  by_cases hl : l = spot
  · subst hl
    refine .inr (.inr ⟨content, hwritten, executable, hput, ?_⟩)
    obtain hfile | ⟨hnone, -, hplain⟩ := get?_of_openFile h
    · exact .inr ⟨old, hfile⟩
    · exact .inl ⟨hnone, hplain⟩
  · exact .inl (get?_put_of_ne hl t _)

theorem isDirectory_of_makeDirectory (h : t.makeDirectory directory p = .ok t') :
    t'.isDirectory directory p = true := by
  obtain ⟨q, hq, place, hplace, hnone, rfl⟩ :=
    makesOne_of_makeDirectory (List.mem_singleton_self p) h
  obtain rfl := List.mem_singleton.1 hq
  have hextends : Extends t (t.put place.location .directory) := by
    apply Extends.put
    rw [hnone]
    simp
  unfold isDirectory find
  rw [hextends.locate hplace]
  dsimp only
  rw [get?_put_self (ne_nil_of_get? hnone)]

theorem isDirectory_of_makeDirectories {c : Path.Component} (hc : c ∈ p.components)
    (hroot : c ≠ .root) (h : t.makeDirectories directory p = (.ok (), t')) :
    t'.isDirectory directory p = true := by
  have htext : p.text ≠ "" := by
    intro hempty
    rw [Path.components, hempty] at hc
    cases hc
  have hcomponents : ¬ (p.components = [] ∨ p.components = [.root]) := by
    rintro (hnil | hone)
    · rw [hnil] at hc
      cases hc
    · rw [hone] at hc
      exact hroot (List.mem_singleton.1 hc)
  unfold makeDirectories at h
  rw [if_neg htext, ancestors, makeFirst, if_neg hcomponents] at h
  -- The last attempt either makes the directory or finds it there.
  have hlast {t₁ : Tree} {e : IoFault} :
      (if e = .fileExists ∧ t₁.isDirectory directory p then ((.ok () : Except IoFault Unit), t₁)
        else (.error e, t₁)) = (.ok (), t') → t'.isDirectory directory p = true := by
    intro hfound
    split at hfound
    · rename_i hthere
      obtain ⟨-, rfl⟩ := Prod.mk.inj hfound
      exact hthere.2
    · cases hfound
  split at h
  · rename_i hmade
    obtain ⟨-, rfl⟩ := Prod.mk.inj h
    exact isDirectory_of_makeDirectory hmade
  · split at h
    · split at h
      · cases h
      · split at h
        · rename_i hmade
          obtain ⟨-, rfl⟩ := Prod.mk.inj h
          exact isDirectory_of_makeDirectory hmade
        · exact hlast h
    · exact hlast h

end DumpWorkbench.Tree
