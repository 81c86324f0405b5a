import DumpWorkbench.DumpName
import DumpWorkbench.Proofs.Outcome
import DumpWorkbench.Proofs.Path.Ending
import Mathlib.Data.List.DropRight

namespace DumpWorkbench.DumpName

open DumpWorkbench.Path (Component above component? componentsOf ending segments separator stepsOf)

variable {cs t u : List Char} {name ext : String}

/-- A relative text that begins with a name and never goes up. -/
structure Plain (cs : List Char) : Prop where
  head : ∀ s ∈ (segments cs).head?, s ≠ [] ∧ s ≠ ['.']
  inner : ['.', '.'] ∉ segments cs

theorem Plain.relative (h : Plain cs) : cs.head? ≠ some separator := by
  intro hhead
  obtain ⟨ds, rfl⟩ := List.head?_eq_some_iff.1 hhead
  have hsegments : segments (separator :: ds) = [] :: segments ds := rfl
  exact (h.head [] (by rw [hsegments]; rfl)).1 rfl

theorem exists_name {s : List Char} (hs : s ≠ ['.', '.']) {c : Component}
    (h : component? s = some c) : ∃ n, c = .name n := by
  unfold component? at h
  rw [if_neg hs] at h
  split at h
  · cases h
  · exact ⟨_, (Option.some.inj h).symm⟩

theorem exists_names {ns : List Component} (h : ∀ c ∈ ns, ∃ n, c = .name n) :
    ∃ names : List String, ns = names.map .name := by
  induction ns with
  | nil => exact ⟨[], rfl⟩
  | cons c ns ih =>
    obtain ⟨⟨n, rfl⟩, hns⟩ := List.forall_mem_cons.1 h
    obtain ⟨names, rfl⟩ := ih hns
    exact ⟨n :: names, rfl⟩

theorem Plain.exists_head (h : Plain cs) :
    ∃ s ss, segments cs = s :: ss ∧ s ≠ [] ∧ s ≠ ['.'] := by
  obtain ⟨s, ss, hs⟩ := List.exists_cons_of_ne_nil (Path.segments_ne_nil cs)
  exact ⟨s, ss, hs, h.head s (by rw [hs]; rfl)⟩

theorem Plain.exists_name_of_mem (h : Plain cs) {c : Component} (hc : c ∈ stepsOf cs) :
    ∃ n, c = .name n := by
  obtain ⟨s, hs, hc⟩ := List.mem_filterMap.1 hc
  exact exists_name (fun hdots => h.inner (hdots ▸ hs)) hc

theorem Plain.steps (h : Plain cs) :
    ∃ names : List String, names ≠ [] ∧ stepsOf cs = names.map .name := by
  obtain ⟨names, hmap⟩ := exists_names fun c hc => h.exists_name_of_mem hc
  refine ⟨names, ?_, hmap⟩
  rintro rfl
  obtain ⟨s, ss, hs, hne, hdot⟩ := h.exists_head
  obtain ⟨c, hc⟩ := Path.exists_component? ⟨hne, hdot⟩
  have hmem : c ∈ stepsOf cs :=
    List.mem_filterMap.2 ⟨s, hs ▸ List.mem_cons_self, hc⟩
  rw [hmap] at hmem
  cases hmem

theorem Plain.prepend (h : Plain t) (hu : ∀ c ∈ u, c ≠ '.' ∧ c ≠ separator) : Plain (u ++ t) := by
  by_cases hnil : u = []
  · subst hnil
    exact h
  obtain ⟨c, v, rfl⟩ := List.exists_cons_of_ne_nil hnil
  have hc := (hu c List.mem_cons_self).1
  have hsep : separator ∉ c :: v := fun hmem => (hu _ hmem).2 rfl
  obtain ⟨s, ss, hs⟩ := List.exists_cons_of_ne_nil (Path.segments_ne_nil t)
  have hinner := h.inner
  rw [hs] at hinner
  -- Only the first segment changes, and it begins with a character that is no dot.
  constructor
  · rw [Path.segments_prepend hsep hs]
    rintro _ ⟨⟩
    exact ⟨List.cons_ne_nil _ _, fun heq => hc (List.cons.inj heq).1⟩
  · rw [Path.segments_prepend hsep hs]
    intro hmem
    rcases List.mem_cons.1 hmem with heq | hmem
    · exact hc (List.cons.inj heq).1.symm
    · exact hinner (List.mem_cons_of_mem s hmem)

theorem Plain.append (h : Plain t) (hsep : separator ∉ u) (hu : u.getLast? ≠ some '.') :
    Plain (t ++ u) := by
  by_cases hnil : u = []
  · subst hnil
    rw [List.append_nil]
    exact h
  have hlast : ∀ s x : List Char, s ++ u = x → x.getLast? ≠ some '.' := by
    rintro s _ rfl
    rw [List.getLast?_append_of_ne_nil _ hnil]
    exact hu
  obtain ⟨ss, s, hs⟩ := (List.eq_nil_or_concat' (segments t)).resolve_left (Path.segments_ne_nil t)
  have hhead := h.head
  have hinner := h.inner
  rw [hs] at hhead hinner
  -- Only the last segment changes, and it does not end with a dot.
  constructor
  · rw [Path.segments_append hsep hs]
    cases ss with
    | nil =>
      rintro _ ⟨⟩
      exact ⟨fun heq => hnil (List.append_eq_nil_iff.1 heq).2, fun heq => hlast s _ heq rfl⟩
    | cons s' ss =>
      rintro _ ⟨⟩
      exact hhead s' rfl
  · rw [Path.segments_append hsep hs]
    intro hmem
    rcases List.mem_append.1 hmem with hmem | hmem
    · exact hinner (List.mem_append_left _ hmem)
    · exact hlast s _ (List.mem_singleton.1 hmem).symm rfl

theorem Plain.ne_nil (h : Plain cs) : cs ≠ [] := by
  rintro rfl
  exact (h.head [] rfl).1 rfl

theorem Plain.componentsOf_eq (h : Plain cs) : componentsOf cs = stepsOf cs := by
  obtain ⟨s, ss, hs, -, hdot⟩ := h.exists_head
  have hhead : (segments cs).head? ≠ some ['.'] := by
    rw [hs]
    exact fun heq => hdot (Option.some.inj heq)
  unfold componentsOf
  rw [if_neg h.relative, if_neg hhead, stepsOf]

theorem plain_of_names (hne : cs ≠ []) (hnames : ∀ c ∈ componentsOf cs, isName c = true) :
    Plain cs := by
  obtain ⟨s, ss, hs⟩ := List.exists_cons_of_ne_nil (Path.segments_ne_nil cs)
  unfold componentsOf at hnames
  split at hnames
  · cases hnames .root List.mem_cons_self
  · rename_i hrel
    split at hnames
    · cases hnames .current List.mem_cons_self
    · rename_i hdot
      rw [hs] at hdot
      constructor
      · rw [hs]
        rintro _ ⟨⟩
        refine ⟨?_, fun heq => hdot (congrArg some heq)⟩
        rintro rfl
        exact hrel (Path.head_of_segments_nil hne hs)
      · intro hmem
        cases hnames .parent (List.mem_filterMap.2 ⟨_, hmem, rfl⟩)

theorem plain_iff : Plain cs ↔ cs ≠ [] ∧ (componentsOf cs).all isName = true := by
  constructor
  · intro h
    obtain ⟨names, -, hsteps⟩ := h.steps
    refine ⟨h.ne_nil, ?_⟩
    rw [h.componentsOf_eq, hsteps]
    simp [isName]
  · rintro ⟨hne, hall⟩
    exact plain_of_names hne (List.all_eq_true.1 hall)

theorem exists_blanks (cs : List Char) :
    ∃ u v, cs = u ++ (Text.trimChars cs ++ v) ∧
      (∀ c ∈ u, Text.isBlank c = true) ∧ ∀ c ∈ v, Text.isBlank c = true := by
  refine ⟨cs.takeWhile Text.isBlank,
    ((Text.trimStart cs).reverse.takeWhile Text.isBlank).reverse, ?_, ?_, ?_⟩
  · rw [Text.trimChars, Text.trimEnd, ← List.reverse_append, List.takeWhile_append_dropWhile,
      List.reverse_reverse, Text.trimStart, List.takeWhile_append_dropWhile]
  · exact List.all_eq_true.1 List.all_takeWhile
  · exact fun c hc => List.all_eq_true.1 List.all_takeWhile c (List.mem_reverse.1 hc)

theorem ne_of_isBlank {c : Char} (hc : Text.isBlank c = true) : c ≠ '.' ∧ c ≠ separator := by
  constructor
  · rintro rfl
    exact absurd hc (by decide)
  · rintro rfl
    exact absurd hc (by decide)

theorem check_eq_ok : check name = .ok () ↔
    Text.trim name ≠ "" ∧ (Path.mk (Text.trim name)).components.all isName = true := by
  unfold check
  dsimp only
  split_ifs with hempty hall <;> simp_all

/-- A name is admitted if and only if it is plain without the space around it. -/
theorem check_iff_plain : check name = .ok () ↔ Plain (Text.trim name).toList := by
  have hnil : (Text.trim name).toList ≠ [] ↔ Text.trim name ≠ "" := by simp
  rw [check_eq_ok, plain_iff, hnil, Path.components]

theorem plain_of_check (h : check name = .ok ()) : Plain name.toList := by
  have htrim := check_iff_plain.1 h
  rw [Text.trim, String.toList_ofList] at htrim
  obtain ⟨u, v, hname, hu, hv⟩ := exists_blanks name.toList
  -- Blanks are no dots and no separators, so they make no new segment and no `..` of an old one.
  rw [hname]
  refine Plain.prepend (htrim.append ?_ ?_) fun c hc => ne_of_isBlank (hu c hc)
  · exact fun hmem => (ne_of_isBlank (hv _ hmem)).2 rfl
  · exact fun hlast => (ne_of_isBlank (hv _ (List.mem_of_getLast? hlast))).1 rfl

theorem trimStart_trimChars (cs : List Char) :
    Text.trimStart (Text.trimChars cs) = Text.trimChars cs := by
  refine List.dropWhile_eq_self_iff.2 fun hlong => ?_
  obtain ⟨rest, hrest⟩ : Text.trimChars cs <+: Text.trimStart cs := List.rdropWhile_prefix _ _
  have hstart : 0 < (Text.trimStart cs).length := by
    rw [← hrest, List.length_append]
    omega
  have hhead : (Text.trimChars cs)[0] = (Text.trimStart cs)[0] := by
    have hboth : 0 < (Text.trimChars cs ++ rest).length := by rwa [hrest]
    calc (Text.trimChars cs)[0]
      _ = (Text.trimChars cs ++ rest)[0] := (List.getElem_append_left hlong).symm
      _ = (Text.trimStart cs)[0] := List.getElem_of_eq hrest hboth
  rw [hhead]
  exact List.dropWhile_get_zero_not Text.isBlank cs hstart

theorem trim_trim (s : String) : Text.trim (Text.trim s) = Text.trim s := by
  have hchars : Text.trimChars (Text.trimChars s.toList) = Text.trimChars s.toList := by
    rw [Text.trimChars, trimStart_trimChars]
    exact List.rdropWhile_idempotent Text.isBlank (Text.trimStart s.toList)
  rw [Text.trim, Text.trim, String.toList_ofList, hchars]

/-- A name that is taken from the command line is admitted as it is. -/
theorem check_of_parse {given : String} (h : parse given = .ok name) : check name = .ok () := by
  obtain ⟨_, hgiven, rfl⟩ := map_eq_ok.1 h
  rw [check_iff_plain, trim_trim]
  exact check_iff_plain.1 hgiven

theorem component?_append (hne : u ≠ []) (hlast : u.getLast? ≠ some '.') (s : List Char) :
    component? (s ++ u) = some (.name (String.ofList (s ++ u))) := by
  have hnot (t : List Char) (ht : t = [] ∨ t.getLast? = some '.') : s ++ u ≠ t := by
    rintro rfl
    rcases ht with ht | ht
    · exact hne (List.append_eq_nil_iff.1 ht).2
    · rw [List.getLast?_append_of_ne_nil _ hne] at ht
      exact hlast ht
  have hdot : ¬(s ++ u = [] ∨ s ++ u = ['.']) := by
    rintro (h | h)
    · exact hnot [] (.inl rfl) h
    · exact hnot ['.'] (.inr rfl) h
  rw [component?, if_neg hdot, if_neg (hnot ['.', '.'] (.inr rfl))]

theorem stepsOf_appended (hsep : separator ∉ u) (hne : u ≠ []) (hlast : u.getLast? ≠ some '.')
    (cs : List Char) :
    stepsOf (cs ++ u) = above cs ++ [.name (String.ofList (ending cs ++ u))] := by
  rw [Path.stepsOf_append hsep, component?_append hne hlast]
  rfl

theorem stepsOf_appended_inj (hsep : separator ∉ u) (hne : u ≠ []) (hlast : u.getLast? ≠ some '.')
    (cs ds : List Char) :
    stepsOf (cs ++ u) = stepsOf (ds ++ u) ↔ above cs = above ds ∧ ending cs = ending ds := by
  rw [stepsOf_appended hsep hne hlast, stepsOf_appended hsep hne hlast]
  constructor
  · intro h
    obtain ⟨habove, hname⟩ := List.append_inj' h rfl
    have htext : String.ofList (ending cs ++ u) = String.ofList (ending ds ++ u) :=
      Component.name.inj (List.singleton_inj.1 hname)
    exact ⟨habove, List.append_cancel_right (String.ofList_injective htext)⟩
  · rintro ⟨habove, hending⟩
    rw [habove, hending]

theorem mapSuffix_spec :
    separator ∉ ".json".toList ∧ ".json".toList ≠ [] ∧ ".json".toList.getLast? ≠ some '.' := by
  decide

def dotted (ext : String) : List Char := '.' :: ext.toList

theorem dotted_spec (hne : ext ≠ "") (hext : ∀ c ∈ ext.toList, c ≠ '.' ∧ c ≠ separator) :
    separator ∉ dotted ext ∧ dotted ext ≠ [] ∧ (dotted ext).getLast? ≠ some '.' := by
  refine ⟨?_, List.cons_ne_nil _ _, ?_⟩
  · intro hmem
    rcases List.mem_cons.1 hmem with h | h
    · exact absurd h (by decide)
    · exact (hext _ h).2 rfl
  · intro hlast
    have hchars : ext.toList ≠ [] := by simpa using hne
    rw [dotted, List.getLast?_cons_of_ne_nil hchars] at hlast
    exact (hext _ (List.mem_of_getLast? hlast)).1 rfl

theorem toList_fileName (h : hasExtension name ext = false) :
    (fileName name ext).toList = name.toList ++ dotted ext := by
  have htext : fileName name ext = name ++ "." ++ ext := by
    rw [fileName, h]
    rfl
  rw [htext, String.toList_append, String.toList_append, List.append_assoc]
  rfl

theorem fileName_of_hasExtension (h : hasExtension name ext = true) : fileName name ext = name :=
  if_pos h

theorem plain_fileName (h : Plain name.toList) (hne : ext ≠ "")
    (hext : ∀ c ∈ ext.toList, c ≠ '.' ∧ c ≠ separator) : Plain (fileName name ext).toList := by
  cases hhas : hasExtension name ext with
  | true =>
    rw [fileName_of_hasExtension hhas]
    exact h
  | false =>
    obtain ⟨hsep, -, hlast⟩ := dotted_spec hne hext
    rw [toList_fileName hhas]
    exact h.append hsep hlast

theorem Plain.above_eq_nil_iff (h : Plain cs) : above cs = [] ↔ separator ∉ cs := by
  constructor
  · intro habove hmem
    obtain ⟨s, ss, hs, hne, hdot⟩ := h.exists_head
    obtain ⟨c, hc⟩ := Path.exists_component? ⟨hne, hdot⟩
    have hss : ss ≠ [] := by
      rintro rfl
      have hwhole := Path.intercalate_segments cs
      rw [hs, List.intercalate_singleton] at hwhole
      exact Path.separator_not_mem_segments (hs ▸ List.mem_cons_self) (hwhole ▸ hmem)
    have hstep : c ∈ above cs := by
      rw [above, hs, List.dropLast_cons_of_ne_nil hss]
      exact List.mem_filterMap.2 ⟨s, List.mem_cons_self, hc⟩
    rw [habove] at hstep
    cases hstep
  · intro hsep
    rw [above, Path.segments_of_not_mem hsep]
    rfl

/-- The file of a map is in a directory of its own if the name has a separator. -/
theorem stepsOf_json (h : Plain name.toList) :
    ∃ (above : List String) (file : String),
      stepsOf (name ++ ".json").toList = above.map Component.name ++ [.name file] ∧
      (above = [] ↔ separator ∉ name.toList) := by
  obtain ⟨hsep, hne, hlast⟩ := mapSuffix_spec
  have hnames : ∀ c ∈ above name.toList, ∃ n, c = .name n := by
    intro c hc
    apply h.exists_name_of_mem
    rw [Path.stepsOf_eq_above]
    exact List.mem_append_left _ hc
  obtain ⟨names, hmap⟩ := exists_names hnames
  refine ⟨names, String.ofList (ending name.toList ++ ".json".toList), ?_, ?_⟩
  · rw [String.toList_append, stepsOf_appended hsep hne hlast, hmap]
  · rw [← h.above_eq_nil_iff, hmap, List.map_eq_nil_iff]

end DumpWorkbench.DumpName
