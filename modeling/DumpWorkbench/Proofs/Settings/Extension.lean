import DumpWorkbench.Proofs.Settings.Layers
import DumpWorkbench.Proofs.Text.Cut
import DumpWorkbench.Proofs.Workspace.Resolution

namespace DumpWorkbench.Settings

open DumpWorkbench.Path (component? segments separator stepsOf)

variable {text ext a b : String} {cs t : List Char} {w : Workspace}

/-- No blank stands at either end and no dot in front. -/
structure Settled (ext : String) : Prop where
  first : ∀ c ∈ ext.toList.head?, Text.isBlank c = false ∧ c ≠ '.'
  last : ∀ c ∈ ext.toList.getLast?, Text.isBlank c = false

def isLead (c : Char) : Bool := Text.isBlank c || c = '.'

/-- The text has blanks and dots in front of the extension, in any order, and blanks behind it. -/
def Spells (text ext : String) : Prop :=
  ∃ before after, text.toList = before ++ (ext.toList ++ after) ∧
    (∀ c ∈ before, isLead c = true) ∧ ∀ c ∈ after, Text.isBlank c = true

/-- Directly behind the dots in front stands a blank, and it is not at the end. -/
def Gapped (text : String) : Prop :=
  ∃ blanks dots c after, text.toList = blanks ++ (dots ++ c :: after) ∧
    (∀ d ∈ blanks, Text.isBlank d = true) ∧ dots ≠ [] ∧ (∀ d ∈ dots, d = '.') ∧
    Text.isBlank c = true ∧ ∃ d ∈ after, Text.isBlank d = false

theorem Trimmed.eq (h : Trimmed cs t) : Text.trimChars cs = t := by
  obtain ⟨before, after, hcs, hbefore, hafter⟩ := h.blanks
  exact Text.eq_between hcs hbefore hafter (fun _ hc => hc) h.first h.last

theorem Stripped.eq (h : Stripped text ext) : bareExtension text = ext := by
  obtain ⟨dots, htrimmed, hdots, hhead⟩ := h
  have hdot : ∀ c ∈ dots, decide (c = '.') = true := fun c hc => decide_eq_true (hdots c hc)
  have hfirst : ∀ c ∈ ext.toList.head?, decide (c = '.') = false := by
    intro c hc
    apply decide_eq_false
    rintro rfl
    exact hhead hc
  apply String.toList_injective
  rw [bareExtension, String.toList_ofList, htrimmed.eq, Text.dropWhile_append_of_head hdot hfirst]

theorem isLead_of_isBlank (c : Char) (h : Text.isBlank c = true) : isLead c = true := by
  rw [isLead, h, Bool.true_or]

theorem isLead_eq_false_iff {c : Char} : isLead c = false ↔ Text.isBlank c = false ∧ c ≠ '.' := by
  simp [isLead]

/-- A text spells one settled extension at most. -/
theorem Spells.unique (ha : Spells text a) (hb : Spells text b) (ha' : Settled a)
    (hb' : Settled b) : a = b := by
  obtain ⟨before, after, htext, hbefore, hafter⟩ := ha
  obtain ⟨before', after', htext', hbefore', hafter'⟩ := hb
  apply String.toList_injective
  rw [← Text.eq_between htext hbefore hafter isLead_of_isBlank
      (fun c hc => isLead_eq_false_iff.2 (ha'.first c hc)) ha'.last,
    Text.eq_between htext' hbefore' hafter' isLead_of_isBlank
      (fun c hc => isLead_eq_false_iff.2 (hb'.first c hc)) hb'.last]

theorem Stripped.last (h : Stripped text ext) :
    ∀ c ∈ ext.toList.getLast?, Text.isBlank c = false := by
  obtain ⟨dots, htrimmed, -, -⟩ := h
  intro c hc
  have hne : ext.toList ≠ [] := by
    intro hnil
    rw [hnil] at hc
    cases hc
  apply htrimmed.last
  rwa [List.getLast?_append_of_ne_nil _ hne]

theorem Stripped.spells (h : Stripped text ext) : Spells text ext := by
  obtain ⟨dots, htrimmed, hdots, -⟩ := h
  obtain ⟨before, after, htext, hbefore, hafter⟩ := htrimmed.blanks
  refine ⟨before ++ dots, after, by simp [htext], ?_, hafter⟩
  intro c hc
  rcases List.mem_append.1 hc with hc | hc
  · exact isLead_of_isBlank c (hbefore c hc)
  · rw [hdots c hc]
    rfl

theorem Settled.stripped (h : Settled ext) : Stripped ext ext := by
  refine ⟨[], ⟨⟨[], [], by simp, by simp, by simp⟩, ?_, h.last⟩, by simp, ?_⟩
  · exact fun c hc => (h.first c hc).1
  · exact fun hdot => (h.first '.' hdot).2 rfl

theorem Gapped.stripped (h : Gapped text) :
    ∃ c rest, Stripped text (String.ofList (c :: rest)) ∧ Text.isBlank c = true := by
  obtain ⟨blanks, dots, c, after, htext, hblanks, hne, hdots, hc, d, hd, hkept⟩ := h
  obtain ⟨u, v, hafter, hu, hv⟩ := DumpName.exists_blanks after
  have htrim : Text.trimChars after ≠ [] := by
    intro hnil
    rw [hafter, hnil, List.nil_append] at hd
    have hblank := (List.mem_append.1 hd).elim (hu d) (hv d)
    rw [hblank] at hkept
    cases hkept
  refine ⟨c, u ++ Text.trimChars after,
    ⟨dots, ⟨⟨blanks, v, ?_, hblanks, hv⟩, ?_, ?_⟩, hdots, ?_⟩, hc⟩
  · rw [htext, String.toList_ofList]
    conv_lhs => rw [hafter]
    simp
  · obtain ⟨e, dots, rfl⟩ := List.exists_cons_of_ne_nil hne
    rintro _ ⟨⟩
    rw [hdots e List.mem_cons_self]
    decide
  · have hlast : (dots ++ c :: (u ++ Text.trimChars after)).getLast? =
        (Text.trimChars after).getLast? := by
      rw [← List.cons_append, ← List.append_assoc, List.getLast?_append_of_ne_nil _ htrim]
    rw [String.toList_ofList, hlast]
    exact (trimmed_trimChars after).last
  · rw [String.toList_ofList]
    rintro ⟨⟩
    exact absurd hc (by decide)

theorem Stripped.gapped (h : Stripped text ext) {c : Char} {rest : List Char}
    (hext : ext.toList = c :: rest) (hc : Text.isBlank c = true) : Gapped text := by
  have hlast := h.last
  obtain ⟨dots, htrimmed, hdots, -⟩ := h
  obtain ⟨before, after, htext, hbefore, hafter⟩ := htrimmed.blanks
  have hfirst := htrimmed.first
  rw [hext] at htext hlast hfirst
  refine ⟨before, dots, c, rest ++ after, by simp [htext], hbefore, ?_, hdots, hc, ?_⟩
  · -- A trimmed text begins with no blank.
    rintro rfl
    rw [hfirst c rfl] at hc
    cases hc
  · by_cases hrest : rest = []
    · subst hrest
      rw [hlast c rfl] at hc
      cases hc
    · refine ⟨rest.getLast hrest, List.mem_append_left after (List.getLast_mem hrest), hlast _ ?_⟩
      rw [List.getLast?_cons_of_ne_nil hrest]
      exact List.getLast?_eq_some_getLast hrest

theorem Stripped.settled_iff (h : Stripped text ext) : Settled ext ↔ ¬ Gapped text := by
  constructor
  · intro hsettled hgapped
    obtain ⟨c, rest, hstripped, hc⟩ := hgapped.stripped
    obtain rfl := h.eq.symm.trans hstripped.eq
    have hfirst := (hsettled.first c (by rw [String.toList_ofList]; rfl)).1
    rw [hfirst] at hc
    cases hc
  · intro hgapped
    refine ⟨fun c hc => ⟨?_, ?_⟩, h.last⟩
    · by_contra hblank
      obtain ⟨rest, hext⟩ := List.head?_eq_some_iff.1 hc
      exact hgapped (h.gapped hext (Bool.eq_true_of_not_eq_false hblank))
    · rintro rfl
      obtain ⟨-, -, -, hhead⟩ := h
      exact hhead hc

theorem bareExtension_eq_self_iff : bareExtension ext = ext ↔ Settled ext := by
  constructor
  · intro h
    have hstripped := stripped_bareExtension ext
    rw [h] at hstripped
    obtain ⟨dots, htrimmed, -, hhead⟩ := id hstripped
    obtain ⟨before, after, hext, -, -⟩ := htrimmed.blanks
    -- Nothing is taken away, so the text begins as it did when it was trimmed.
    have hlength := congrArg List.length hext
    simp only [List.length_append] at hlength
    obtain rfl : dots = [] := List.eq_nil_of_length_eq_zero (by omega)
    refine ⟨fun c hc => ⟨htrimmed.first c hc, ?_⟩, hstripped.last⟩
    rintro rfl
    exact hhead hc
  · exact fun h => h.stripped.eq

/-- Every text spells a settled extension: what is stored, without what is left in front. -/
theorem exists_settled (text : String) :
    ∃ ext lead, Settled ext ∧ Spells text ext ∧
      (bareExtension text).toList = lead ++ ext.toList ∧ ∀ c ∈ lead, isLead c = true := by
  have hstripped := stripped_bareExtension text
  obtain ⟨before, after, htext, hbefore, hafter⟩ := hstripped.spells
  have hlast := hstripped.last
  have hcut := List.takeWhile_append_dropWhile (p := isLead) (l := (bareExtension text).toList)
  have hlead : ∀ c ∈ (bareExtension text).toList.takeWhile isLead, isLead c = true :=
    List.all_eq_true.1 List.all_takeWhile
  have hfirst : ∀ c ∈ ((bareExtension text).toList.dropWhile isLead).head?, isLead c = false :=
    fun c hc => eq_false_of_head?_dropWhile hc
  generalize (bareExtension text).toList = stored at *
  generalize stored.takeWhile isLead = lead at *
  generalize stored.dropWhile isLead = ext at *
  subst hcut
  refine ⟨String.ofList ext, lead, ⟨fun c hc => ?_, fun c hc => ?_⟩, ?_, by simp, hlead⟩
  · rw [String.toList_ofList] at hc
    exact isLead_eq_false_iff.1 (hfirst c hc)
  · rw [String.toList_ofList] at hc
    have hne : ext ≠ [] := by
      rintro rfl
      cases hc
    apply hlast
    rwa [List.getLast?_append_of_ne_nil _ hne]
  · refine ⟨before ++ lead, after, by simp [htext], fun c hc => ?_, hafter⟩
    exact (List.mem_append.1 hc).elim (hbefore c) (hlead c)

theorem bareExtension_eq_iff (hext : Settled ext) (h : Spells text ext) :
    bareExtension text = ext ↔ ¬ Gapped text := by
  have hstripped := stripped_bareExtension text
  constructor
  · rintro rfl
    exact hstripped.settled_iff.1 hext
  · intro hgapped
    exact hstripped.spells.unique h (hstripped.settled_iff.2 hgapped) hext

theorem separator_not_mem_lead {lead : List Char} (h : ∀ c ∈ lead, isLead c = true) :
    separator ∉ lead :=
  fun hmem => absurd (h _ hmem) (by decide)

theorem dumpPath_x (w : Workspace) (ext : String) :
    w.dumpPath "x" ext = (w.bins.join ("x." ++ ext)).normalize := rfl

/-- The dump of a name without a dot tells what stands in front of the extension. -/
theorem stepsOf_dotted_inj {u cs : List Char} (hu : separator ∉ u)
    (h : stepsOf ('x' :: '.' :: (u ++ cs)) = stepsOf ('x' :: '.' :: cs)) : u = [] := by
  obtain ⟨s, ss, hs⟩ := List.exists_cons_of_ne_nil (Path.segments_ne_nil cs)
  have hx : separator ∉ ['x', '.'] := by decide
  have hsteps (v : List Char) (hv : separator ∉ v) : stepsOf ('x' :: '.' :: (v ++ cs)) =
      .name (String.ofList ('x' :: '.' :: (v ++ s))) :: ss.filterMap component? := by
    have hsegments := Path.segments_prepend hx (Path.segments_prepend hv hs)
    have hname : component? ('x' :: '.' :: (v ++ s)) =
        some (.name (String.ofList ('x' :: '.' :: (v ++ s)))) := by
      simp [component?]
    change (segments (['x', '.'] ++ (v ++ cs))).filterMap component? = _
    rw [hsegments]
    exact List.filterMap_cons_some hname
  have hnil := hsteps [] List.not_mem_nil
  rw [List.nil_append, List.nil_append] at hnil
  rw [hsteps u hu, hnil] at h
  have htext := String.ofList_injective (Path.Component.name.inj (List.cons.inj h).1)
  simpa using htext

/-- A text that leaves more than the extension leads to other dumps. -/
theorem dumpPath_lead_iff {lead : List Char} (h : ∀ c ∈ lead, isLead c = true)
    (hstored : a.toList = lead ++ ext.toList) :
    (∀ name, w.dumpPath name a = w.dumpPath name ext) ↔ a = ext := by
  constructor
  · intro hpaths
    have hx := hpaths "x"
    have hrel (e : String) : ("x." ++ e).toList.head? ≠ some separator := by
      rw [String.toList_append]
      change some 'x' ≠ some separator
      decide
    rw [dumpPath_x, dumpPath_x, Workspace.normalize_join_inj (hrel a) (hrel ext),
      String.toList_append, String.toList_append, hstored] at hx
    have hlead := stepsOf_dotted_inj (separator_not_mem_lead h) hx
    apply String.toList_injective
    rw [hstored, hlead, List.nil_append]
  · rintro rfl
    exact fun _ => rfl

/-- An extension from the command line is stored without dots in front and blanks at the end. It is
in normal form, is stored unchanged when it is given again, and is the one that the text spells,
exactly where no blank stands between the dots in front and the rest. Then all its spellings lead
to the same dumps. -/
theorem extension_override (s : Settings) (o : Overrides) (text : String) :
    let given (s : Settings) (text : String) := s.override { o with extension := some text }
    let stored := (given s text).extension
    (stored.toList.head? ≠ some '.' ∧ ∀ c ∈ stored.toList.getLast?, Text.isBlank c = false) ∧
    (Settled stored ↔ ¬ Gapped text) ∧
    ((given (given s text) stored).extension = stored ↔ ¬ Gapped text) ∧
    ∃ ext, Settled ext ∧ Spells text ext ∧ (∀ e, Settled e → Spells text e → e = ext) ∧
      (stored = ext ↔ ¬ Gapped text) ∧
      ∀ other, Spells other ext → ¬ Gapped other → ∀ w : Workspace,
        ((∀ name, w.dumpPath name stored = w.dumpPath name (given s other).extension) ↔
          ¬ Gapped text) := by
  intro given stored
  have hstripped : Stripped text stored := stripped_bareExtension text
  have hsettled := hstripped.settled_iff
  obtain ⟨-, -, -, hhead⟩ := id hstripped
  obtain ⟨ext, lead, hext, hspells, hlead, hleads⟩ := exists_settled text
  have hstored : stored = ext ↔ ¬ Gapped text := bareExtension_eq_iff hext hspells
  refine ⟨⟨hhead, hstripped.last⟩, hsettled, bareExtension_eq_self_iff.trans hsettled, ext, hext,
    hspells, fun e he h => h.unique hspells he hext, hstored, fun other hother hgapped w => ?_⟩
  have hgiven : (given s other).extension = ext := (bareExtension_eq_iff hext hother).2 hgapped
  rw [hgiven]
  exact (dumpPath_lead_iff hleads hlead).trans hstored

/-- The blank behind the dot is stored in front of the extension, and goes when that is given again;
until then the dumps are others. -/
theorem extension_override_gapped :
    let once := override {} { extension := some ". DMP" }
    let other := override {} { extension := some " .DMP" }
    once.extension = " DMP" ∧ once.check = .ok () ∧
      (once.override { extension := some once.extension }).extension = "DMP" ∧
      (Workspace.under ⟨"/w"⟩).dumpPath "crash1" once.extension = ⟨"/w/bins/crash1. DMP"⟩ ∧
      (Workspace.under ⟨"/w"⟩).dumpPath "crash1" other.extension = ⟨"/w/bins/crash1.DMP"⟩ := by
  decide

end DumpWorkbench.Settings
